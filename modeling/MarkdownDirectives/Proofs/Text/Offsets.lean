import Mathlib.Data.String.Basic
import MarkdownDirectives.Proofs.Text.ByteOrder
import MarkdownDirectives.Text.Words

/-!
# Byte offsets

A reader may keep byte offsets into a text and cut the text there. It fails where it cuts inside a
character or behind the end, and where it lowers a number below zero. Offsets that are the lengths
of beginnings of the text are safe: a cut between two of them gives the characters in between.

* `Fault`, `slice`, `lower` — the steps of such a reader that can fail
* `slice_append`, `slice_start`, `slice_end` — cuts at the ends of parts
* `firstByte_eq` — searching goes over the characters that are not searched for
* `offsetOf_behind` — the text behind a part starts at its offset
* `colonBytes_eq` — colons can be counted byte by byte
-/

namespace MarkdownDirectives.Text

open String (utf8Len)

/-! ## Steps that can fail -/

/-- What stops a reader that works on byte offsets. -/
inductive Fault where
  /-- A cut inside a character, behind the end of the text, or back to an earlier offset. -/
  | cut
  /-- A number lowered below zero. -/
  | underflow
deriving DecidableEq

/-- What a reader gives that may stop on the way. -/
abbrev Checked (α : Type) := Except Fault α

/-- The text between two byte offsets. -/
def slice (s : String) (start stop : Nat) : Checked String :=
  if start ≤ stop ∧ String.Pos.Raw.IsValid s ⟨start⟩ ∧ String.Pos.Raw.IsValid s ⟨stop⟩ then
    .ok (String.Pos.Raw.extract s ⟨start⟩ ⟨stop⟩)
  else .error .cut

/-- The text in front of a byte offset. -/
def sliceTo (s : String) (stop : Nat) : Checked String :=
  slice s 0 stop

/-- The text behind a byte offset. -/
def sliceFrom (s : String) (start : Nat) : Checked String :=
  slice s start s.utf8ByteSize

/-- A number less another one. -/
def lower (n k : Nat) : Checked Nat :=
  if k ≤ n then .ok (n - k) else .error .underflow

theorem lower_succ (n : Nat) : lower (n + 1) 1 = .ok n :=
  if_pos (Nat.le_add_left 1 n)

theorem ok_bind {α β : Type} (a : α) (f : α → Checked β) : (Except.ok a >>= f) = f a :=
  rfl

variable {s : String} {front cs rest : List Char} {c : Char}

theorem utf8Len_concat (front : List Char) (c : Char) :
    utf8Len (front ++ [c]) = utf8Len front + c.utf8Size := by
  rw [String.utf8Len_append, String.utf8Len_cons, String.utf8Len_nil, Nat.zero_add]

/-- The end of a beginning is a place to cut at. -/
theorem isValid_of_append (h : s.toList = front ++ rest) :
    String.Pos.Raw.IsValid s ⟨utf8Len front⟩ := by
  rw [String.Pos.Raw.isValid_iff_exists_append]
  refine ⟨String.ofList front, String.ofList rest, ?_, (String.rawEndPos_ofList front).symm⟩
  rw [← String.ofList_append, ← h, String.ofList_toList]

/-- **A cut at the two ends of a part gives the part.** -/
theorem slice_append (h : s.toList = front ++ (cs ++ rest)) :
    slice s (utf8Len front) (utf8Len front + utf8Len cs) = .ok (String.ofList cs) := by
  have hstop : String.Pos.Raw.IsValid s ⟨utf8Len front + utf8Len cs⟩ := by
    rw [← String.utf8Len_append]
    exact isValid_of_append (by rw [h, List.append_assoc])
  have hs : s = String.ofList (front ++ cs ++ rest) := by
    rw [List.append_assoc, ← h, String.ofList_toList]
  rw [slice, if_pos ⟨Nat.le_add_right _ _, isValid_of_append h, hstop⟩, hs,
    String.extract_of_valid]

theorem slice_start (h : s.toList = front ++ rest) :
    sliceTo s (utf8Len front) = .ok (String.ofList front) := by
  have hslice : slice s (utf8Len []) (utf8Len [] + utf8Len front) = .ok (String.ofList front) :=
    slice_append h
  rwa [String.utf8Len_nil, Nat.zero_add] at hslice

theorem slice_end (h : s.toList = front ++ rest) :
    sliceFrom s (utf8Len front) = .ok (String.ofList rest) := by
  have hsize : s.utf8ByteSize = utf8Len front + utf8Len rest := by
    rw [← String.utf8Len_toList, h, String.utf8Len_append]
  have hparts : s.toList = front ++ (rest ++ []) := by rw [List.append_nil, h]
  rw [sliceFrom, hsize]
  exact slice_append hparts

/-! ## Offsets from the end -/

/-- The offset of the end of a text, given by the characters in it. -/
def offsetOf (s : String) (rest : List Char) : Nat :=
  s.utf8ByteSize - utf8Len rest

theorem offsetOf_append (h : s.toList = front ++ rest) : offsetOf s rest = utf8Len front := by
  rw [offsetOf, ← String.utf8Len_toList, h, String.utf8Len_append, Nat.add_sub_cancel]

/-- Offsets in what stands behind a cut are offsets in the text, counted from the cut. -/
theorem offsetOf_behind (h : s.toList = front ++ cs) (hrest : rest <:+ cs) :
    utf8Len front + offsetOf (String.ofList cs) rest = offsetOf s rest := by
  obtain ⟨middle, rfl⟩ := hrest
  rw [offsetOf_append String.toList_ofList, ← String.utf8Len_append]
  exact (offsetOf_append (by rw [h, List.append_assoc])).symm

/-! ## Searching -/

/-- The offset of the first such character. -/
def firstByte? (p : Char → Bool) : List Char → Option Nat
  | [] => none
  | c :: rest => if p c then some 0 else (firstByte? p rest).map (· + c.utf8Size)

/-- The offset of the first such character, or else of the end. -/
def firstByte (p : Char → Bool) (s : String) : Nat :=
  (firstByte? p s.toList).getD s.utf8ByteSize

theorem firstByte_eq (p : Char → Bool) (s : String) :
    firstByte p s = utf8Len (s.toList.takeWhile (!p ·)) := by
  have hlist (cs : List Char) :
      (firstByte? p cs).getD (utf8Len cs) = utf8Len (cs.takeWhile (!p ·)) := by
    induction cs with
    | nil => rfl
    | cons c rest ih =>
      rw [firstByte?, List.takeWhile_cons]
      cases p c with
      | true => rfl
      | false =>
        rw [if_neg Bool.false_ne_true, Bool.not_false, if_pos rfl, String.utf8Len_cons,
          String.utf8Len_cons, ← ih]
        cases firstByte? p rest <;> rfl
  rw [firstByte, ← String.utf8Len_toList, hlist]

/-! ## Counting bytes -/

/-- Only a colon is written with the byte of a colon in front. -/
theorem head?_utf8EncodeChar (c : Char) :
    (String.utf8EncodeChar c).head? = some 58 ↔ c = ':' := by
  have hcolon : c = ':' ↔ c.val.toNat = 58 := by
    rw [← Char.val_inj, ← UInt32.toNat_inj]
    rfl
  rw [hcolon]
  unfold String.utf8EncodeChar
  dsimp only
  -- one to four bytes
  split_ifs <;>
    simp only [List.head?_cons, Option.some.injEq, ← UInt8.toNat_inj, UInt8.toNat_ofNat',
      UInt8.toNat_ofNat] <;>
    omega

/-- The number of the bytes of colons that a text starts with. -/
def colonBytes (s : String) : Nat :=
  ((bytes s).takeWhile (· == 58)).length

/-- **Colons can be counted byte by byte.** -/
theorem colonBytes_eq (s : String) : colonBytes s = (s.toList.takeWhile (· == ':')).length := by
  rw [colonBytes, bytes_eq]
  induction s.toList with
  | nil => rfl
  | cons c rest ih =>
    rw [List.flatMap_cons, List.takeWhile_cons]
    by_cases hc : c = ':'
    · subst hc
      rw [if_pos (beq_self_eq_true ':'), List.length_cons, ← ih]
      rfl
    · obtain ⟨byte, more, hbytes⟩ :=
        List.exists_cons_of_ne_nil (String.utf8EncodeChar_ne_nil (c := c))
      have hbyte : byte ≠ 58 := fun h => hc <| by
        rw [← head?_utf8EncodeChar, hbytes, h]
        rfl
      rw [hbytes, List.cons_append, List.takeWhile_cons_of_neg (by simpa using hbyte),
        if_neg (by simpa using hc)]
      rfl

/-- A run of one ASCII character has as many bytes as characters. -/
theorem utf8Len_run (hc : c.utf8Size = 1) (cs : List Char) :
    utf8Len (cs.takeWhile (· == c)) = (cs.takeWhile (· == c)).length := by
  induction cs with
  | nil => rfl
  | cons d rest ih =>
    rw [List.takeWhile_cons]
    split
    · next hd =>
      rw [String.utf8Len_cons, ih, List.length_cons, beq_iff_eq.mp hd, hc]
    · rfl

end MarkdownDirectives.Text
