import Mathlib.Data.List.Basic
import Mathlib.Tactic.Common

/-!
# The Go semantics the proxy relies on

The backend moves bytes between Go slices, narrows Go `int`s to `int32` and
multiplies `time.Duration`s. This module fixes the part of Go's meaning those
operations have in the source: `copy` copies the shorter of its two lengths,
slicing past the capacity panics, `int32(x)` keeps the low 32 bits of `x` as a
two's-complement value, and a `time.Duration` is an `int64` count of
nanoseconds whose products wrap.

A slice is modelled by its contents. Every buffer the code slices was made by
`make([]byte, n)` or drawn from a pool of `n`-byte buffers, so its capacity is
its length. Go strings are sequences of characters, so that names and
addresses compare by `decide`.
-/

namespace Redfrog.Go

/-- The contents of a Go `[]byte`. -/
abbrev Bytes := List UInt8

/-- A Go `string`, as addresses and domain names are written. -/
abbrev GoString := List Char

/-- An `error` value, as the code builds it. -/
inductive GoError where
  /-- An error handed back by a collaborator: a socket, the dialer, a codec. -/
  | external (code : Nat)
  /-- `errors.New(msg)`. -/
  | new (msg : String)
  /-- `errors.Wrap(cause, msg)`. -/
  | wrap (msg : String) (cause : GoError)
  deriving DecidableEq, Repr

/-- How a Go call ends: returning a value, returning an error, or panicking. -/
inductive Outcome (α : Type) where
  | ok (a : α)
  | err (e : GoError)
  | panic
  deriving DecidableEq, Repr

/-- Results with an error compare by `decide`, as `Outcome` does. -/
instance instDecidableEqExcept {ε α : Type} [DecidableEq ε] [DecidableEq α] :
    DecidableEq (Except ε α)
  | .ok a, .ok b => if h : a = b then isTrue (h ▸ rfl) else isFalse fun e => h (Except.ok.inj e)
  | .error a, .error b =>
    if h : a = b then isTrue (h ▸ rfl) else isFalse fun e => h (Except.error.inj e)
  | .ok _, .error _ => isFalse Except.noConfusion
  | .error _, .ok _ => isFalse Except.noConfusion

/-- A Go `error` result as an outcome: `nil` is success. -/
def Outcome.ofError : Option GoError → Outcome Unit
  | none => .ok ()
  | some e => .err e

/-! ### Slices -/

/-- `b[lo:hi]`; `none` is the run-time panic for `lo > hi` or `hi > cap b`. -/
def slice (b : Bytes) (lo hi : Nat) : Option Bytes :=
  if lo ≤ hi ∧ hi ≤ b.length then some ((b.take hi).drop lo) else none

/-- The contents of `dst` after `copy(dst, src)`, which copies
`min (len dst) (len src)` bytes. -/
def copy (dst src : Bytes) : Bytes := src.take dst.length ++ dst.drop src.length

/-- The contents of `b` after `copy(b[lo:hi], src)`, or the slice's panic. -/
def copyInto (b : Bytes) (lo hi : Nat) (src : Bytes) : Option Bytes :=
  (slice b lo hi).map fun window => b.take lo ++ copy window src ++ b.drop hi

theorem slice_of_le {b : Bytes} {lo hi : Nat} (hlo : lo ≤ hi) (hhi : hi ≤ b.length) :
    slice b lo hi = some ((b.take hi).drop lo) := by
  simp [slice, hlo, hhi]

theorem slice_eq_none {b : Bytes} {lo hi : Nat} (h : b.length < hi) : slice b lo hi = none := by
  simp only [slice]
  split_ifs with hs
  · omega
  · rfl

@[simp] theorem length_copy (dst src : Bytes) : (copy dst src).length = dst.length := by
  simp only [copy, List.length_append, List.length_take, List.length_drop]
  omega

theorem copy_of_le {dst src : Bytes} (h : src.length ≤ dst.length) :
    copy dst src = src ++ dst.drop src.length := by
  rw [copy, List.take_of_length_le h]

private theorem take_drop_append_drop (b : Bytes) {m hi : Nat} (h : m ≤ hi) :
    (b.drop m).take (hi - m) ++ b.drop hi = b.drop m := by
  conv_rhs => rw [← List.take_append_drop (hi - m) (b.drop m)]
  rw [List.drop_drop]
  congr 2
  omega

theorem take_copy {dst src : Bytes} (h : src.length ≤ dst.length) :
    (copy dst src).take src.length = src := by
  simp [copy_of_le h]

theorem copy_replicate_zero {src : Bytes} {n : Nat} (h : src.length ≤ n) :
    copy (List.replicate n 0) src = src ++ List.replicate (n - src.length) 0 := by
  rw [copy_of_le (by simpa using h), List.drop_replicate]

/-- Copying `src` wholly into `b[lo:hi]` overwrites exactly `|src|` bytes at `lo`. -/
theorem copyInto_of_le {b src : Bytes} {lo hi : Nat} (hlo : lo ≤ hi) (hhi : hi ≤ b.length)
    (hsrc : src.length ≤ hi - lo) :
    copyInto b lo hi src = some (b.take lo ++ src ++ b.drop (lo + src.length)) := by
  have hwin : ((b.take hi).drop lo).length = hi - lo := by simp; omega
  rw [copyInto, slice_of_le hlo hhi, Option.map_some', copy_of_le (hwin ▸ hsrc)]
  simp only [List.drop_drop, List.append_assoc, List.drop_take, Option.some.injEq,
    List.append_cancel_left_eq]
  rw [Nat.sub_sub]
  exact take_drop_append_drop b (by omega)

theorem length_of_copyInto {b b' src : Bytes} {lo hi : Nat}
    (h : copyInto b lo hi src = some b') : b'.length = b.length := by
  simp only [copyInto, slice] at h
  split_ifs at h with hs
  · simp only [Option.map_some', Option.some.injEq] at h
    subst h
    simp only [List.length_append, List.length_take, length_copy, List.length_drop]
    omega
  · simp at h

/-! ### Integers -/

/-- `int32(x)`: the low 32 bits of `x` read as two's complement, that is
`x` modulo `2 ^ 32` in `[-2 ^ 31, 2 ^ 31)`. -/
def int32 (x : Int) : Int := x.bmod 4294967296

/-- An `int32` conversion of a value in range keeps it. -/
theorem int32_of_range {x : Int} (h₁ : -2147483648 ≤ x) (h₂ : x < 2147483648) :
    int32 x = x := by
  rw [int32, Int.bmod_def]
  split_ifs <;> omega

/-- `time.Duration(n) * time.Second`: an `int64` count of nanoseconds, so the
product wraps modulo `2 ^ 64`. -/
def seconds (n : Int) : Int := (n * 1000000000).bmod 18446744073709551616

/-- A `uint32` count of seconds never overflows a `time.Duration`. -/
theorem seconds_of_lt {n : Nat} (h : n < 4294967296) : seconds n = n * 1000000000 := by
  rw [seconds, Int.bmod_def]
  split_ifs <;> omega

end Redfrog.Go
