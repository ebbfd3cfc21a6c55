/-
This file shows that the order of texts by their characters is the order by their bytes in UTF-8.
-/

import Mathlib.Data.List.Lex
import Mathlib.Tactic.SplitIfs

namespace FormRules.Text

/-- The bytes of a text in UTF-8. -/
def bytes (text : String) : List UInt8 :=
  text.toUTF8.data.toList

theorem bytes_eq_flatMap (text : String) :
    bytes text = text.toList.flatMap String.utf8EncodeChar := by
  have spelled : text.toUTF8 = text.toList.utf8Encode := by
    rw [String.toUTF8_eq_toByteArray, ← String.toByteArray_ofList, String.ofList_toList]
  rw [bytes, spelled, List.utf8Encode]
  simp

/-- A spelling of numbers below a bound by bytes that keeps their order, whatever follows. -/
def KeepsOrder (spell : Nat → List UInt8) (bound : Nat) : Prop :=
  ∀ m n, m < n → n < bound → ∀ x y, spell m ++ x < spell n ++ y

theorem cons_lt_of_toNat {a b : UInt8} (less : a.toNat < b.toNat) (x y : List UInt8) :
    a :: x < b :: y :=
  List.cons_lt_cons_iff.2 (.inl (UInt8.lt_iff_toNat_lt.2 less))

/-- A first byte keeps the order of as many numbers as it has values. -/
theorem keepsOrder_lead {count first : Nat} (fits : count + first ≤ 256) :
    KeepsOrder (fun n => [UInt8.ofNat (n % count + first)]) count := by
  intro m n less bounded x y
  apply cons_lt_of_toNat
  have small : m % count = m := Nat.mod_eq_of_lt (less.trans bounded)
  have large : n % count = n := Nat.mod_eq_of_lt bounded
  simp only [UInt8.toNat_ofNat', small, large]
  omega

/-- Each following byte takes six bits and keeps the order of 64 times as many numbers. -/
theorem KeepsOrder.follow {spell : Nat → List UInt8} {bound : Nat} (keeps : KeepsOrder spell bound) :
    KeepsOrder (fun n => spell (n / 64) ++ [UInt8.ofNat (n % 64 + 0x80)]) (64 * bound) := by
  intro m n less bounded x y
  simp only [List.append_assoc]
  by_cases same : m / 64 = n / 64
  · rw [same]
    apply List.append_left_lt
    apply cons_lt_of_toNat
    simp only [UInt8.toNat_ofNat']
    omega
  · exact keeps (m / 64) (n / 64) (by omega) (by omega) _ _

theorem keepsOrder_two :
    KeepsOrder (fun n => [UInt8.ofNat (n / 64 % 32 + 0xc0), UInt8.ofNat (n % 64 + 0x80)]) 0x800 :=
  (keepsOrder_lead (by decide : 32 + 0xc0 ≤ 256)).follow

theorem keepsOrder_three :
    KeepsOrder (fun n => [UInt8.ofNat (n / 4096 % 16 + 0xe0), UInt8.ofNat (n / 64 % 64 + 0x80),
      UInt8.ofNat (n % 64 + 0x80)]) 0x10000 := by
  have keeps := (keepsOrder_lead (by decide : 16 + 0xe0 ≤ 256)).follow.follow
  simpa only [Nat.div_div_eq_div_mul, List.cons_append, List.nil_append] using keeps

theorem keepsOrder_four :
    KeepsOrder (fun n => [UInt8.ofNat (n / 262144 % 8 + 0xf0), UInt8.ofNat (n / 4096 % 64 + 0x80),
      UInt8.ofNat (n / 64 % 64 + 0x80), UInt8.ofNat (n % 64 + 0x80)]) 0x200000 := by
  have keeps := (keepsOrder_lead (by decide : 8 + 0xf0 ≤ 256)).follow.follow.follow
  simpa only [Nat.div_div_eq_div_mul, List.cons_append, List.nil_append] using keeps

theorem keepsOrder_one : KeepsOrder (fun n => [UInt8.ofNat n]) (0x7f + 1) := by
  intro m n less bounded x y
  apply cons_lt_of_toNat
  simp only [UInt8.toNat_ofNat']
  omega

/-- The spellings of all numbers start with no smaller byte than the given one. -/
def LeadsFrom (lead : Nat) (spell : Nat → List UInt8) : Prop :=
  ∀ n, ∃ first rest, spell n = first :: rest ∧ lead ≤ first.toNat

theorem LeadsFrom.ifLe {lead limit : Nat} {low high : Nat → List UInt8} (lowLeads : LeadsFrom lead low)
    (highLeads : LeadsFrom lead high) :
    LeadsFrom lead fun n => if n ≤ limit then low n else high n := by
  intro n
  by_cases small : n ≤ limit
  · simpa only [if_pos small] using lowLeads n
  · simpa only [if_neg small] using highLeads n

theorem leadsFrom_cons {lead first scale count : Nat} (fits : count + first ≤ 256)
    (positive : 0 < count) (least : lead ≤ first) (rest : Nat → List UInt8) :
    LeadsFrom lead fun n => UInt8.ofNat (n / scale % count + first) :: rest n := by
  refine fun n => ⟨_, _, rfl, ?_⟩
  have digit := Nat.mod_lt (n / scale) positive
  simp only [UInt8.toNat_ofNat']
  omega

/-- Longer spellings of larger numbers keep the order if they start with larger bytes. -/
theorem KeepsOrder.ifLe (limit lead : Nat) {bound : Nat} {low high : Nat → List UInt8}
    (lowKeeps : KeepsOrder low (limit + 1)) (highKeeps : KeepsOrder high bound)
    (below : ∀ n ≤ limit, ∃ first rest, low n = first :: rest ∧ first.toNat < lead)
    (above : LeadsFrom lead high) :
    KeepsOrder (fun n => if n ≤ limit then low n else high n) bound := by
  intro m n less bounded x y
  by_cases nSmall : n ≤ limit
  · have mSmall : m ≤ limit := by omega
    simpa only [if_pos nSmall, if_pos mSmall] using lowKeeps m n less (by omega) x y
  · by_cases mSmall : m ≤ limit
    · obtain ⟨mFirst, mRest, mSpelled, mLead⟩ := below m mSmall
      obtain ⟨nFirst, nRest, nSpelled, nLead⟩ := above n
      simp only [if_neg nSmall, if_pos mSmall, mSpelled, nSpelled]
      exact cons_lt_of_toNat (by omega) _ _
    · simpa only [if_neg nSmall, if_neg mSmall] using highKeeps m n less bounded x y

/-- The bytes of a smaller character come first, whatever follows. -/
theorem utf8EncodeChar_append_lt {c d : Char} (less : c < d) (x y : List UInt8) :
    String.utf8EncodeChar c ++ x < String.utf8EncodeChar d ++ y := by
  have bounded : d.val.toNat < 0x200000 := by
    have valid := d.valid
    simp only [UInt32.isValidChar, Nat.isValidChar] at valid
    omega
  have threeOrFour := keepsOrder_three.ifLe 0xffff 0xf0 keepsOrder_four
    (fun n _ => ⟨_, _, rfl, by simp only [UInt8.toNat_ofNat']; omega⟩)
    (leadsFrom_cons (by decide) (by decide) (by decide) _)
  have twoOrMore := keepsOrder_two.ifLe 0x7ff 0xe0 threeOrFour
    (fun n _ => ⟨_, _, rfl, by simp only [UInt8.toNat_ofNat']; omega⟩)
    ((leadsFrom_cons (by decide) (by decide) (by decide) _).ifLe
      (leadsFrom_cons (by decide) (by decide) (by decide) _))
  have all := keepsOrder_one.ifLe 0x7f 0xc0 twoOrMore
    (fun n _ => ⟨_, _, rfl, by simp only [UInt8.toNat_ofNat']; omega⟩)
    ((leadsFrom_cons (by decide) (by decide) (by decide) _).ifLe
      ((leadsFrom_cons (by decide) (by decide) (by decide) _).ifLe
        (leadsFrom_cons (by decide) (by decide) (by decide) _)))
  exact all c.val.toNat d.val.toNat less bounded x y

theorem bytes_lt_of_lt {first second : List Char} (less : first < second) :
    first.flatMap String.utf8EncodeChar < second.flatMap String.utf8EncodeChar := by
  induction first generalizing second with
  | nil =>
      cases second with
      | nil => exact absurd less (List.lt_irrefl _)
      | cons d rest =>
          obtain ⟨byte, others, spelled⟩ :=
            List.exists_cons_of_ne_nil (String.utf8EncodeChar_ne_nil (c := d))
          simp [spelled]
  | cons c rest inductionHypothesis =>
      cases second with
      | nil => exact absurd less (List.not_lt_nil _)
      | cons d others =>
          simp only [List.flatMap_cons]
          rcases List.cons_lt_cons_iff.1 less with smaller | ⟨rfl, later⟩
          · exact utf8EncodeChar_append_lt smaller _ _
          · exact List.append_left_lt (inductionHypothesis later)

/-- Texts are ordered by their bytes. -/
theorem bytes_lt_iff {first second : String} : bytes first < bytes second ↔ first < second := by
  rw [bytes_eq_flatMap, bytes_eq_flatMap]
  constructor
  · intro less
    by_contra notLess
    have notAfter : second ≤ first := String.not_lt.1 notLess
    by_cases same : second = first
    · rw [same] at less
      exact List.lt_irrefl _ less
    · have greater : second < first := Std.lt_of_le_of_ne notAfter same
      exact List.lt_asymm (bytes_lt_of_lt greater) less
  · exact bytes_lt_of_lt

end FormRules.Text
