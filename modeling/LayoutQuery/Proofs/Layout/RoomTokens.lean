import LayoutQuery.Proofs.Condition.RoundTrip
import LayoutQuery.Proofs.Layout.Decoding
import LayoutQuery.Proofs.Matching.Counts

/-! # Room types in layouts and in conditions
A layout may spell a room type in any letter case and with any blanks around it, a condition in any
letter case. But for the blanks the two accept the same words, and mean the same by them. -/
namespace LayoutQuery

open Condition Text

namespace Condition

/-- A word that `count_unit` is followed by in some text, and the room type that is counted then. -/
def RoomTarget (word : String) (type : RoomType) : Prop :=
  ∃ (p : Phrase) (c : Condition), p.Shaped ∧ Spells p.keyword "count_unit" ∧
    p.target = word.toList ∧ parse p.text = .ok c ∧ c.subject = .room type

/-- The parts of the text that asks whether a word's rooms occur at all. -/
def anyRoom (word : String) : Phrase :=
  ⟨[], "count_unit".toList, [' '], word.toList, [' '], .greater, [' '], ['0'], []⟩

variable {word s : String} {type type' : RoomType} {p : Phrase} {c : Condition}

theorem text_anyRoom (word : String) : (anyRoom word).text = "count_unit " ++ word ++ " > 0" := by
  rw [Phrase.text, ofList_eq_iff]
  simp [Phrase.body, Phrase.comparison, anyRoom, Comparison.chars, Relation.symbol]

theorem shaped_anyRoom (h : IsWord word) : (anyRoom word).Shaped := by
  have hspaced : (anyRoom word).Spaced := ⟨rfl, rfl, rfl, rfl, rfl⟩
  apply hspaced.shaped
  · exact fun hnil => h.1 (String.toList_eq_nil_iff.mp hnil)
  · exact h.2
  · simp [anyRoom]
  · simp [anyRoom, isDigit]

theorem spells_anyRoom (word : String) : Spells (anyRoom word).keyword Keyword.countUnit.word :=
  (by decide : Spells "count_unit".toList "count_unit")

theorem isWord_of_spells_room {room : String} (hroom : RoomWord room type)
    (hspells : Spells word.toList room) : IsWord word := by
  refine ⟨?_, only_of_spells_room hspells hroom⟩
  rintro rfl
  cases hroom <;> exact absurd hspells (by decide)

theorem parse_anyRoom {room : String} (hroom : RoomWord room type)
    (hspells : Spells word.toList room) :
    parse (anyRoom word).text = .ok ⟨.room type, .greater, 0⟩ := by
  have hshaped := shaped_anyRoom (isWord_of_spells_room hroom hspells)
  have hunit := spells_anyRoom word
  have hdigits : ['0'].length ≤ 4300 := by decide
  exact (parse_text_eq_ok_iff (hshaped.lexical hunit)).mpr
    ⟨hdigits, .room hunit hroom hspells, rfl, rfl⟩

theorem roomTarget_iff :
    RoomTarget word type ↔ ∃ room, RoomWord room type ∧ Spells word.toList room := by
  constructor
  · rintro ⟨p, c, hshaped, hunit, htarget, hparse, hsubject⟩
    have hkeyword : Spells p.keyword Keyword.countUnit.word := hunit
    have hcounts := ((parse_text_eq_ok_iff (hshaped.lexical hkeyword)).mp hparse).2.1
    rw [hsubject] at hcounts
    obtain - | ⟨-, hroom, hspells⟩ := hcounts
    exact ⟨_, hroom, htarget ▸ hspells⟩
  · rintro ⟨room, hroom, hspells⟩
    exact ⟨anyRoom word, _, shaped_anyRoom (isWord_of_spells_room hroom hspells),
      spells_anyRoom word, rfl, parse_anyRoom hroom hspells, rfl⟩

/-- The tokens of layouts are the targets of conditions, but for the blanks around them. -/
theorem ofToken?_eq_some_iff_roomTarget :
    RoomType.ofToken? s = some type ↔ RoomTarget (trim s) type := by
  rw [ofToken?_eq_some_iff, roomTarget_iff]

theorem RoomTarget.unique (h : RoomTarget (trim s) type) (h' : RoomTarget (trim s) type') :
    type = type' := by
  rw [← ofToken?_eq_some_iff_roomTarget] at h h'
  exact Option.some.inj (h.symm.trans h')

theorem RoomTarget.parse_anyRoom (h : RoomTarget word type) :
    parse ("count_unit " ++ word ++ " > 0") = .ok ⟨.room type, .greater, 0⟩ := by
  obtain ⟨room, hroom, hspells⟩ := roomTarget_iff.mp h
  rw [← text_anyRoom]
  exact Condition.parse_anyRoom hroom hspells

/-! ### The text of a word that is not known -/

theorem opens_anyRoom (hne : word.toList ≠ []) (hstored : Stored word.toList) :
    Opens (anyRoom word).text.toList "count_unit".toList (anyRoom word).body := by
  refine ⟨[], [' '], ?_, ?_⟩
  · exact ⟨only_nil, by decide, by decide, by decide, by decide,
      (stops_append_iff hne).mpr hstored.front⟩
  · rw [Phrase.text, String.toList_ofList]
    rfl

theorem ended_anyRoom (hstored : Stored word.toList) :
    (anyRoom word).comparison.Ended [' '] [' '] where
  target := hstored.back
  before := by simp [isGap]
  after := by simp [isGap]
  digits_ne := by simp [anyRoom, Phrase.comparison]
  digits := by simp [anyRoom, Phrase.comparison, isDigit]
  rest := only_nil

theorem Phrase.Shaped.ended_comparison (h : p.Shaped) : p.comparison.Ended p.before p.after where
  target := stops_of_only (fun _ => target_excludes_gap) (only_reverse.mpr h.target)
  before := h.before
  after := h.after
  digits_ne := h.digits_ne
  digits := h.digits
  rest := h.trail

/-- Whatever the word holds, a phrase of this text has it for its target: the keyword is cut off from
the front, and all that stands behind the target from the end. -/
theorem target_of_text_anyRoom (hne : word.toList ≠ []) (hstored : Stored word.toList)
    (hp : p.Lexical) (ht : p.text = (anyRoom word).text) :
    p.keyword = "count_unit".toList ∧ p.target = word.toList := by
  have hopens : Opens p.text.toList p.keyword p.body := by
    refine ⟨p.lead, p.gap, hp.opening, ?_⟩
    rw [Phrase.text, String.toList_ofList]
  rw [ht] at hopens
  obtain ⟨hkeyword, hbody⟩ := hopens.unique (opens_anyRoom hne hstored)
  exact ⟨hkeyword, hp.ended_comparison.target_unique (ended_anyRoom hstored) hbody⟩

/-- A word is a target if and only if the text that asks for any of its rooms parses. -/
theorem exists_roomTarget_iff (hstored : Stored word.toList) :
    (∃ type, RoomTarget word type) ↔ ∃ c, parse ("count_unit " ++ word ++ " > 0") = .ok c := by
  constructor
  · rintro ⟨type, htarget⟩
    exact ⟨_, htarget.parse_anyRoom⟩
  · rintro ⟨c, hparse⟩
    rw [← text_anyRoom] at hparse
    obtain ⟨p, hp, ht⟩ := exists_phrase_of_parse hparse
    by_cases hne : word.toList = []
    · rw [String.toList_eq_nil_iff.mp hne] at hparse
      cases hparse
    · obtain ⟨hkeyword, htarget⟩ := target_of_text_anyRoom hne hstored hp ht
      have hunit : Spells p.keyword "count_unit" := by
        rw [hkeyword]
        decide
      rw [← ht] at hparse
      obtain ⟨-, hcounts, -⟩ := (parse_text_eq_ok_iff hp).mp hparse
      obtain ⟨room, type, hroom, hspells⟩ := hcounts.room_word hunit
      rw [htarget] at hspells
      exact ⟨type, roomTarget_iff.mpr ⟨room, hroom, hspells⟩⟩

theorem holds_anyRoom_iff {m : Layout} :
    Holds ⟨.room type, .greater, 0⟩ m ↔ ∃ u ∈ m.units, u.type = type := by
  rw [holds_iff]
  simp [Relation.Relates, Layout.count, Layout.countRooms, List.countP_pos_iff]

end Condition

namespace Layout

variable {defaultName s : String} {v item : Json} {items : List Json} {index : Nat} {l : Layout}

/-- Among the units that a value lists, the one at `index` has the text `s` for its room type. -/
structure GivesRoomType (v : Json) (items : List Json) (index : Nat) (s : String) : Prop where
  listed : v.get? "map_units" = some (.array items)
  given : ∃ item, items[index]? = some item ∧ item.get? "room_type" = some (.string s)

/-- The entities have names, and all units but the one at `index` can be decoded. -/
structure SoundBut (v : Json) (items : List Json) (index : Nat) : Prop where
  entities : ∃ entities, DecodedList (fun _ => DecodedEntity) "spawn_objects" v entities
  others : ∀ j ≠ index, ∀ item, items[j]? = some item → ∃ u, DecodedUnit j item u

theorem exists_decodedUnit (hitem : item.get? "room_type" = some (.string s)) {type : RoomType}
    (htype : RoomType.ofToken? s = some type) : ∃ u, DecodedUnit index item u := by
  simp only [← decodeUnit_eq_ok_iff, decodeUnit, hitem, htype]
  exact ⟨_, rfl⟩

/-- The decoded unit has the room type that its text means as a target. -/
theorem GivesRoomType.roomTarget (h : GivesRoomType v items index s)
    (hl : ofJson defaultName v = .ok l) :
    ∃ u, l.units[index]? = some u ∧ RoomTarget (trim s) u.type := by
  obtain ⟨found, hlists, hlength, hdecoded⟩ := (ofJson_eq_ok_iff.mp hl).units
  have hsame := (listMember_eq_ok_iff.mpr hlists).symm.trans
    (listMember_eq_ok_iff.mpr (.list h.listed))
  cases hsame
  obtain ⟨item, hitem, hgiven⟩ := h.given
  have hindex : index < l.units.length := by
    rw [hlength]
    exact (List.getElem?_eq_some_iff.mp hitem).1
  have hunit := List.getElem?_eq_getElem hindex
  obtain ⟨token, htoken, htype⟩ := (hdecoded index item _ hitem hunit).type
  cases hgiven.symm.trans htoken
  exact ⟨_, hunit, ofToken?_eq_some_iff_roomTarget.mp htype⟩

theorem GivesRoomType.exists_ofJson (h : GivesRoomType v items index s)
    (hsound : SoundBut v items index) {type : RoomType} (htarget : RoomTarget (trim s) type) :
    ∃ l, ofJson defaultName v = .ok l := by
  obtain ⟨entities, hentities⟩ := hsound.entities
  have hitems : ∀ j item, items[j]? = some item → ∃ u, DecodedUnit j item u := by
    intro j item hitem
    by_cases hj : j = index
    · subst j
      obtain ⟨found, hfound, hgiven⟩ := h.given
      cases hfound.symm.trans hitem
      exact exists_decodedUnit hgiven (ofToken?_eq_some_iff_roomTarget.mpr htarget)
    · exact hsound.others j hj item hitem
  obtain ⟨units, hunits⟩ := judges_unit.exists_decoded (.list h.listed) hitems
  exact exists_ofJson_eq_ok (Json.object_of_get? h.listed) hentities hunits

theorem GivesRoomType.ofJson_eq_error (h : GivesRoomType v items index s)
    (hsound : SoundBut v items index) (hnone : ¬ ∃ type, RoomTarget (trim s) type) :
    ofJson defaultName v = .error (.unknownRoomType index s) := by
  obtain ⟨entities, hentities⟩ := hsound.entities
  obtain ⟨item, hitem, hgiven⟩ := h.given
  have htoken : RoomType.ofToken? s = none := by
    rw [Option.eq_none_iff_forall_ne_some]
    intro type htype
    exact hnone ⟨type, ofToken?_eq_some_iff_roomTarget.mp htype⟩
  have hfault : UnitFault index item (.unknownRoomType index s) := .unknown hgiven htoken
  obtain ⟨members, hv⟩ := Json.object_of_get? h.listed
  apply ofJson_eq_error_iff.mpr
  refine .units hv (judges_entity.not_listFault hentities) ?_
  refine .item (.list h.listed) hitem hfault hfault.names ?_
  intro j hj earlier hearlier f
  obtain ⟨u, hu⟩ := hsound.others j (Nat.ne_of_lt hj) earlier hearlier
  exact judges_unit.not_bad hu f

/-- A text is accepted for a room type if and only if it is, without the blanks around it, accepted
as a target, and as the same room type. So every layout that has such a unit answers to the text that
asks for any of its target. -/
theorem room_types_agree (defaultName : String) (h : GivesRoomType v items index s) :
    ((∃ type, RoomTarget (trim s) type) ↔
      ∃ c, parse ("count_unit " ++ trim s ++ " > 0") = .ok c) ∧
    (∀ l, ofJson defaultName v = .ok l → ∃ u, l.units[index]? = some u ∧
      (∀ type, RoomTarget (trim s) type ↔ type = u.type) ∧
      ∃ c, parse ("count_unit " ++ trim s ++ " > 0") = .ok c ∧ c.subject = .room u.type ∧
        ∀ m : Layout, (∃ w ∈ m.units, w.type = u.type) → c.Holds m) ∧
    (SoundBut v items index →
      ((∃ l, ofJson defaultName v = .ok l) ↔ ∃ type, RoomTarget (trim s) type) ∧
      ((¬ ∃ type, RoomTarget (trim s) type) →
        ofJson defaultName v = .error (.unknownRoomType index s))) := by
  refine ⟨exists_roomTarget_iff (stored_trim s), ?_, ?_⟩
  · intro l hl
    obtain ⟨u, hu, htarget⟩ := h.roomTarget hl
    refine ⟨u, hu, ?_, _, htarget.parse_anyRoom, rfl, fun m => holds_anyRoom_iff.mpr⟩
    intro type
    constructor
    · intro htype
      exact htype.unique htarget
    · rintro rfl
      exact htarget
  · intro hsound
    refine ⟨⟨?_, ?_⟩, h.ofJson_eq_error hsound⟩
    · rintro ⟨l, hl⟩
      obtain ⟨u, -, htarget⟩ := h.roomTarget hl
      exact ⟨_, htarget⟩
    · rintro ⟨type, htarget⟩
      exact h.exists_ofJson hsound htarget

/-- Blanks of two kinds and mixed case, behind a unit with another room type. -/
theorem room_types_agree_spaced :
    let s := "\u00A0HallWay\u2003"
    let items : List Json :=
      [.object [("room_type", .string "cap")], .object [("room_type", .string s)]]
    let v : Json := .object [("map_units", .array items)]
    GivesRoomType v items 1 s ∧ SoundBut v items 1 ∧ RoomTarget (trim s) .hallway ∧
      ∃ l u, ofJson "level" v = .ok l ∧ l.units[1]? = some u ∧ u.type = .hallway := by
  intro s items v
  have hgives : GivesRoomType v items 1 s := ⟨rfl, _, rfl, rfl⟩
  have hcap : DecodedUnit 0 (.object [("room_type", .string "cap")]) ⟨"unit_0", .deadEnd⟩ := by
    refine ⟨⟨"cap", rfl, by decide⟩, ?_, ?_⟩
    · intro name hname
      cases hname
    · intro hnone
      rw [natural, decimal]
      rfl
  have hsound : SoundBut v items 1 := by
    refine ⟨⟨[], [], .absent rfl, rfl, by simp⟩, ?_⟩
    intro j hj item hitem
    rcases j with - | - | j
    · cases hitem
      exact ⟨_, hcap⟩
    · exact absurd rfl hj
    · cases hitem
  have htarget : RoomTarget (trim s) .hallway :=
    roomTarget_iff.mpr ⟨"hallway", .hallway, by decide⟩
  obtain ⟨l, hl⟩ := ((room_types_agree "level" hgives).2.2 hsound).1.mpr ⟨_, htarget⟩
  obtain ⟨u, hu, htype, -⟩ := (room_types_agree "level" hgives).2.1 l hl
  exact ⟨hgives, hsound, htarget, l, u, hl, hu, ((htype .hallway).mp htarget).symm⟩

end Layout

end LayoutQuery
