import Mathlib.Data.List.Basic
import Mathlib.Data.String.Basic
import NodeTelemetry.Proofs.Text.Codec

/-!
# Texts in the order of their bytes

Texts are compared character by character. That is the order of their UTF-8 bytes:
of two characters the smaller one has the smaller leading byte or, where those are
the same, a smaller byte later (`toBytes_le_iff`).
-/

namespace NodeTelemetry.Text

/-- Bytes are compared by the first one in which they differ. -/
theorem cons_lt_cons {a b : Nat} {u v : List UInt8} (fits : a < 256) (fits' : b < 256) (before : a ≤ b)
    (next : a = b → u < v) : UInt8.ofNat a :: u < UInt8.ofNat b :: v := by
  rw [List.cons_lt_cons_iff]
  by_cases same : a = b
  · exact .inr ⟨congrArg UInt8.ofNat same, next same⟩
  · refine .inl (UInt8.lt_iff_toNat_lt.mpr ?_)
    rw [UInt8.toNat_ofNat_of_lt' fits, UInt8.toNat_ofNat_of_lt' fits']
    omega

/-- The bytes of a smaller character come first, whatever follows. -/
theorem utf8EncodeChar_append_lt {c d : Char} (before : c < d) (u v : List UInt8) :
    String.utf8EncodeChar c ++ u < String.utf8EncodeChar d ++ v := by
  have less : c.val.toNat < d.val.toNat := before
  have bound : d.val.toNat < 1114112 := by
    rcases d.valid with low | ⟨_, high⟩ <;> omega
  unfold String.utf8EncodeChar
  dsimp only
  generalize c.val.toNat = a at less
  generalize d.val.toNat = b at less bound
  -- The leading byte of a longer character is the greater one. Of characters of one length the leading bytes
  -- and then the others are compared, which hold the number from its highest bits down.
  by_cases one : b ≤ 127
  · rw [if_pos (by omega : a ≤ 127), if_pos one]
    exact cons_lt_cons (by omega) (by omega) (by omega) fun _ => by omega
  rw [if_neg one]
  by_cases two : b ≤ 2047
  · rw [if_pos two]
    split
    · exact cons_lt_cons (by omega) (by omega) (by omega) fun _ => by omega
    · rw [if_pos (by omega : a ≤ 2047)]
      refine cons_lt_cons (by omega) (by omega) (by omega) fun _ => ?_
      exact cons_lt_cons (by omega) (by omega) (by omega) fun _ => by omega
  rw [if_neg two]
  by_cases three : b ≤ 65535
  · rw [if_pos three]
    split
    · exact cons_lt_cons (by omega) (by omega) (by omega) fun _ => by omega
    split
    · exact cons_lt_cons (by omega) (by omega) (by omega) fun _ => by omega
    · rw [if_pos (by omega : a ≤ 65535)]
      refine cons_lt_cons (by omega) (by omega) (by omega) fun _ => ?_
      refine cons_lt_cons (by omega) (by omega) (by omega) fun _ => ?_
      exact cons_lt_cons (by omega) (by omega) (by omega) fun _ => by omega
  rw [if_neg three]
  split
  · exact cons_lt_cons (by omega) (by omega) (by omega) fun _ => by omega
  split
  · exact cons_lt_cons (by omega) (by omega) (by omega) fun _ => by omega
  split
  · exact cons_lt_cons (by omega) (by omega) (by omega) fun _ => by omega
  · refine cons_lt_cons (by omega) (by omega) (by omega) fun _ => ?_
    refine cons_lt_cons (by omega) (by omega) (by omega) fun _ => ?_
    refine cons_lt_cons (by omega) (by omega) (by omega) fun _ => ?_
    exact cons_lt_cons (by omega) (by omega) (by omega) fun _ => by omega

theorem flatMap_utf8EncodeChar_lt {s t : List Char} (before : s < t) :
    s.flatMap String.utf8EncodeChar < t.flatMap String.utf8EncodeChar := by
  induction s generalizing t with
  | nil =>
    cases t with
    | nil => exact absurd before (List.lt_irrefl [])
    | cons d t =>
      obtain ⟨b, rest, bytes⟩ := List.exists_cons_of_ne_nil (String.utf8EncodeChar_ne_nil (c := d))
      rw [List.flatMap_nil, List.flatMap_cons, bytes]
      exact List.nil_lt_cons _ _
  | cons c s ih =>
    cases t with
    | nil => exact absurd before (List.not_lt_nil _)
    | cons d t =>
      rw [List.flatMap_cons, List.flatMap_cons]
      rcases List.cons_lt_cons_iff.mp before with less | ⟨rfl, rest⟩
      · exact utf8EncodeChar_append_lt less _ _
      · exact List.append_left_lt (ih rest)

theorem toBytes_lt {s t : String} (before : s < t) : toBytes s < toBytes t := by
  rw [toBytes_eq_flatMap, toBytes_eq_flatMap]
  exact flatMap_utf8EncodeChar_lt (String.lt_iff_toList_lt.mp before)

/-- Texts have the order of their bytes. -/
theorem toBytes_le_iff {s t : String} : toBytes s ≤ toBytes t ↔ s ≤ t := by
  constructor
  · intro bytes
    rw [← String.not_lt]
    intro after
    exact List.not_le.mpr (toBytes_lt after) bytes
  · intro texts
    refine List.not_lt.mp fun after => ?_
    by_cases less : s < t
    · exact List.lt_asymm after (toBytes_lt less)
    · obtain rfl := String.le_antisymm texts (String.not_lt.mp less)
      exact List.lt_irrefl _ after

end NodeTelemetry.Text
