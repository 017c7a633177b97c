import LayoutQuery.Matching
import LayoutQuery.Proofs.Condition.RoundTrip

/-! # Names that can be asked for
A layout holds names as they are given, but the name in a condition has no blanks at its ends, and in
a text it is a word. An entity is counted under a name that folds like its own, so what can be asked
for is decided by what its name folds to. -/
namespace LayoutQuery

open Condition (IsWord isTargetChar)
open Text

namespace Text

/-- The characters of folded words. -/
def isFoldedChar (c : Char) : Bool :=
  ('a' ≤ c && c ≤ 'z') || isDigit c || c == '_' || c == '-'

/-- The text folds to a word, be it one itself or not. -/
def FoldsToWord (s : String) : Prop := fold s ≠ "" ∧ Only isFoldedChar (fold s).toList

instance (s : String) : Decidable (FoldsToWord s) := inferInstanceAs (Decidable (_ ∧ _))

variable {s : String} {c : Char}

theorem isTargetChar_of_isFoldedChar (h : isFoldedChar c = true) : isTargetChar c = true := by
  simp only [isFoldedChar, Bool.or_eq_true] at h
  simp only [isTargetChar, Condition.isLetter, Bool.or_eq_true]
  rcases h with ((hletter | hdigit) | hunder) | hhyphen
  · exact .inl (.inl (.inl (.inl hletter)))
  · exact .inl (.inl (.inr hdigit))
  · exact .inl (.inr hunder)
  · exact .inr hhyphen

theorem isFoldedChar_toLower (h : isTargetChar c = true) : isFoldedChar c.toLower = true :=
  of_ascii (P := fun c => isTargetChar c = true → isFoldedChar c.toLower = true)
    (by decide) (toNat_lt_of_isTargetChar h) h

theorem toLower_of_isFoldedChar (h : isFoldedChar c = true) : c.toLower = c :=
  of_ascii (P := fun c => isFoldedChar c = true → c.toLower = c) (by decide)
    (toNat_lt_of_isTargetChar (isTargetChar_of_isFoldedChar h)) h

theorem toList_fold_word (h : Only isTargetChar s.toList) :
    (fold s).toList = s.toList.map Char.toLower := by
  have hfold := fold_word h
  rw [String.ofList_toList] at hfold
  rw [hfold, String.toList_ofList]

theorem foldsToWord_of_isWord (h : IsWord s) : FoldsToWord s := by
  obtain ⟨hne, honly⟩ := h
  have hfold := toList_fold_word honly
  constructor
  · intro hnil
    rw [hnil] at hfold
    have hmap : s.toList.map Char.toLower = [] := hfold.symm
    exact hne (String.toList_eq_nil_iff.mp (List.map_eq_nil_iff.mp hmap))
  · rw [hfold]
    intro d hd
    obtain ⟨c, hc, rfl⟩ := List.mem_map.mp hd
    exact isFoldedChar_toLower (honly c hc)

theorem isWord_fold (h : FoldsToWord s) : IsWord (fold s) :=
  ⟨h.1, fun c hc => isTargetChar_of_isFoldedChar (h.2 c hc)⟩

theorem fold_fold_of_foldsToWord (h : FoldsToWord s) : fold (fold s) = fold s := by
  have hsame : (fold s).toList.map Char.toLower = (fold s).toList.map id :=
    List.map_congr_left fun c hc => toLower_of_isFoldedChar (h.2 c hc)
  rw [← String.toList_inj, toList_fold_word (isWord_fold h).2, hsame, List.map_id]

theorem exists_word_alike_iff : (∃ name, IsWord name ∧ Alike s name) ↔ FoldsToWord s := by
  constructor
  · rintro ⟨name, hword, halike⟩
    have hfold : fold s = fold name := halike
    rw [FoldsToWord, hfold]
    exact foldsToWord_of_isWord hword
  · intro h
    exact ⟨fold s, isWord_fold h, (fold_fold_of_foldsToWord h).symm⟩

theorem exists_trimmed_alike_iff : (∃ name, trim name = name ∧ Alike s name) ↔ trim s = s :=
  ⟨fun ⟨_, htrim, halike⟩ => halike.trim_iff.mpr htrim, fun h => ⟨s, h, rfl⟩⟩

end Text

namespace Condition

variable {name : String}

theorem exists_parse_entity_iff :
    (∃ t c, parse t = .ok c ∧ c.subject = .entity name) ↔ IsWord name := by
  constructor
  · rintro ⟨t, c, hparse, hsubject⟩
    have hword := (readable_of_parse hparse).1
    rwa [hsubject] at hword
  · intro h
    have hle : (decimal 0).length ≤ 4300 := (length_decimal_le 0).trans (by decide)
    exact ⟨_, _, parse_render (c := ⟨.entity name, .equal, 0⟩) h hle, rfl⟩

theorem exists_make_entity_iff :
    (∃ given relation amount c, make (.entity given) relation amount = .ok c ∧
      c.subject = .entity name) ↔ trim name = name := by
  constructor
  · rintro ⟨given, relation, amount, c, hmake, hsubject⟩
    obtain ⟨n, -, rfl⟩ := make_eq_ok_iff.mp hmake
    cases hsubject
    exact trim_trim given
  · intro h
    refine ⟨name, .equal, 0, ⟨.entity (trim name), .equal, 0⟩, rfl, ?_⟩
    rw [h]

theorem trim_of_isWord (h : IsWord name) : trim name = name := by
  have htrim := trim_word h.2
  rwa [String.ofList_toList] at htrim

end Condition

variable {layout name : String} {e : Entity} {units : List MapUnit}

theorem Layout.countEntities_single :
    (Layout.mk layout [e] units).countEntities name = 1 ↔ Alike e.name name := by
  simp [countEntities, List.countP_singleton]

/-- The only entity of a layout can be asked for in a text if and only if its name folds to a word. A
condition that is made of a name, and not read from a text, can count it if and only if there is no
blank at an end of its name. -/
theorem Condition.entity_counted_iff (layout : String) (e : Entity) (units : List MapUnit) :
    let l : Layout := ⟨layout, [e], units⟩
    ((∃ t c name, parse t = .ok c ∧ c.subject = .entity name ∧ l.countEntities name = 1) ↔
      FoldsToWord e.name) ∧
    ((∃ c name, ((∃ t, parse t = .ok c) ∨
        ∃ given relation amount, make (.entity given) relation amount = .ok c) ∧
      c.subject = .entity name ∧ l.countEntities name = 1) ↔ trim e.name = e.name) := by
  intro l
  constructor
  · constructor
    · rintro ⟨t, c, name, hparse, hsubject, hcount⟩
      have hword : IsWord name := exists_parse_entity_iff.mp ⟨t, c, hparse, hsubject⟩
      exact exists_word_alike_iff.mp ⟨name, hword, Layout.countEntities_single.mp hcount⟩
    · intro h
      obtain ⟨name, hword, halike⟩ := exists_word_alike_iff.mpr h
      obtain ⟨t, c, hparse, hsubject⟩ := exists_parse_entity_iff.mpr hword
      exact ⟨t, c, name, hparse, hsubject, Layout.countEntities_single.mpr halike⟩
  · constructor
    · rintro ⟨c, name, horigin, hsubject, hcount⟩
      have htrim : trim name = name := by
        rcases horigin with ⟨t, hparse⟩ | ⟨given, relation, amount, hmake⟩
        · exact trim_of_isWord (exists_parse_entity_iff.mp ⟨t, c, hparse, hsubject⟩)
        · exact exists_make_entity_iff.mp ⟨given, relation, amount, c, hmake, hsubject⟩
      exact exists_trimmed_alike_iff.mp ⟨name, htrim, Layout.countEntities_single.mp hcount⟩
    · intro h
      obtain ⟨name, htrim, halike⟩ := exists_trimmed_alike_iff.mpr h
      obtain ⟨given, relation, amount, c, hmake, hsubject⟩ := exists_make_entity_iff.mpr htrim
      exact ⟨c, name, .inr ⟨given, relation, amount, hmake⟩, hsubject,
        Layout.countEntities_single.mpr halike⟩

/-- The sign for kelvin folds to a letter; a full stop stays what it is. -/
example : FoldsToWord "\u212Aappa" ∧ ¬ FoldsToWord "ch.appy" := by decide

end LayoutQuery
