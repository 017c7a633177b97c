import LayoutQuery.Layout.Snapshot
import LayoutQuery.Proofs.Condition.RoundTrip
import LayoutQuery.Proofs.Json.Writing
import LayoutQuery.Proofs.Layout.Decoding
import LayoutQuery.Proofs.Text.Utf8
import Mathlib.Data.List.Forall2

/-! # Loading what was written
A layout is written as a JSON object with its name, its entities and its units, encoded as UTF-8.
Loading the file gives back the layout, however its room types are spelled and wherever blanks and
line ends stand. -/
namespace LayoutQuery

open Condition (RoomWord Spells)
open Json (Written WrittenText)

def Entity.record (e : Entity) : Json := .object [("name", .string e.name), ("kind", e.kind)]

/-- The room type may be written as any of its words, in any letter case. -/
inductive MapUnit.Recorded (u : MapUnit) : Json → Prop where
  | mk {token word : String} : RoomWord word u.type → Spells token.toList word →
      Recorded u (.object [("unit", .string u.name), ("room_type", .string token)])

theorem plain_record {first second : String} (hne : first ≠ second) {v w : Json} (hv : v.Plain)
    (hw : w.Plain) : (Json.object [(first, v), (second, w)]).Plain := by
  have hnames : ([(first, v), (second, w)].map Prod.fst).Nodup := by
    simpa using hne
  apply Json.Plain.object hnames
  intro m hm
  rcases List.mem_pair.mp hm with rfl | rfl
  · exact hv
  · exact hw

theorem Entity.plain_record {e : Entity} (h : e.kind = .null ∨ ∃ s, e.kind = .string s) :
    e.record.Plain := by
  have hkind : e.kind.Plain := by
    rcases h with hnull | ⟨s, hs⟩
    · rw [hnull]
      exact .null
    · rw [hs]
      exact .string s
  exact LayoutQuery.plain_record (by decide) (.string e.name) hkind

theorem MapUnit.Recorded.plain {u : MapUnit} {item : Json} (h : u.Recorded item) : item.Plain := by
  obtain ⟨-, -⟩ := h
  exact plain_record (by decide) (.string u.name) (.string _)

/-- The record with the first of the room type's words. -/
def MapUnit.record (u : MapUnit) : Json :=
  .object [("unit", .string u.name), ("room_type", .string u.type.token)]

theorem MapUnit.recorded_record (u : MapUnit) : u.Recorded u.record :=
  .mk (Condition.roomWord_token u.type) (Condition.spells_token u.type)

namespace Layout

inductive Recorded (l : Layout) : Json → Prop where
  | mk {units : List Json} : List.Forall₂ MapUnit.Recorded l.units units →
      Recorded l (.object [("name", .string l.name),
        ("spawn_objects", .array (l.entities.map Entity.record)), ("map_units", .array units)])

variable {l : Layout} {v : Json}

/-! ## Decoding a record -/

theorem ofToken?_spelled {token word : String} {type : RoomType} (hword : RoomWord word type)
    (htoken : Spells token.toList word) : RoomType.ofToken? token = some type := by
  have honly := Condition.only_of_spells_room htoken hword
  rw [← token.ofList_toList]
  exact (Condition.ofToken?_word honly).mpr ⟨word, hword, htoken⟩

theorem decodedEntity_record (e : Entity) : DecodedEntity e.record e where
  name := rfl
  kind kind h := by
    cases h
    rfl
  kindless h := by cases h

theorem decodedUnit_recorded {index : Nat} {u : MapUnit} {item : Json} (h : u.Recorded item) :
    DecodedUnit index item u := by
  obtain ⟨hword, htoken⟩ := h
  refine ⟨⟨_, rfl, ofToken?_spelled hword htoken⟩, ?_, ?_⟩
  · intro name hname
    cases hname
    rfl
  · intro hname
    cases hname

theorem ofJson_recorded (hname : l.name ≠ "") (h : l.Recorded v) (defaultName : String) :
    ofJson defaultName v = .ok l := by
  obtain ⟨hunits⟩ := h
  have hfilled : ¬ (Json.string l.name).Void := by
    intro hvoid
    exact hname (by simpa [Json.isVoid] using Json.isVoid_iff.mpr hvoid)
  apply ofJson_eq_ok_iff.mpr
  refine ⟨⟨_, rfl⟩, ?_, ?_, ?_, ?_⟩
  · refine ⟨_, .list rfl, by simp, ?_⟩
    intro index item e hitem he
    rw [List.getElem?_map, he] at hitem
    cases hitem
    exact decodedEntity_record e
  · refine ⟨_, .list rfl, List.Forall₂.length_eq hunits, ?_⟩
    intro index item u hitem hu
    obtain ⟨hindex, rfl⟩ := List.getElem?_eq_some_iff.mp hitem
    obtain ⟨hindex', rfl⟩ := List.getElem?_eq_some_iff.mp hu
    exact decodedUnit_recorded (hunits.get hindex' hindex)
  · intro name hget hvoid
    cases hget
    rfl
  · intro hvoid
    exact absurd (hvoid _ rfl) hfilled

/-! ## Loading -/

theorem exists_recorded (l : Layout) : ∃ v, l.Recorded v := by
  have hunits : List.Forall₂ MapUnit.Recorded l.units (l.units.map MapUnit.record) := by
    rw [List.forall₂_map_right_iff, List.forall₂_same]
    exact fun u _ => u.recorded_record
  exact ⟨_, .mk hunits⟩

theorem Recorded.plain (hkinds : ∀ e ∈ l.entities, e.kind = .null ∨ ∃ s, e.kind = .string s)
    (h : l.Recorded v) : v.Plain := by
  obtain ⟨hunits⟩ := h
  apply Json.Plain.object (by simp)
  intro m hm
  simp only [List.mem_cons, List.not_mem_nil, or_false] at hm
  rcases hm with rfl | rfl | rfl
  · exact .string _
  · apply Json.Plain.array
    intro item hitem
    obtain ⟨e, he, rfl⟩ := List.mem_map.mp hitem
    exact Entity.plain_record (hkinds e he)
  · apply Json.Plain.array
    intro item hitem
    obtain ⟨index, hindex, rfl⟩ := List.mem_iff_getElem.mp hitem
    have hlength := List.Forall₂.length_eq hunits
    exact (hunits.get (hlength ▸ hindex) hindex).plain

theorem ofBytes_of_written {text : String} (htext : WrittenText v text.toList) (p : Path) :
    ofBytes p text.toUTF8.data.toList = (ofJson p.stem v).mapError .payload := by
  rw [ofBytes, Text.decode_toUTF8]
  have hparse := Json.parse_of_written htext.unifyNewlines
  simp only [mapError_ok, ok_bind, hparse]

/-- A layout that has a name, and kinds that are null or texts, is written as an object of which
there are texts, the shortest among them. Loading a file that holds any of these texts, as UTF-8,
gives back the layout, whatever the file is called. -/
theorem load_of_written (l : Layout) (hname : l.name ≠ "")
    (hkinds : ∀ e ∈ l.entities, e.kind = .null ∨ ∃ s, e.kind = .string s) :
    (∃ v, l.Recorded v) ∧ (∀ v, l.Recorded v → WrittenText v v.write) ∧
    ∀ v (text : String) (t : Tree) (p : Path), l.Recorded v → WrittenText v text.toList →
      t.read p = .ok text.toUTF8.data.toList → load t p = .ok l := by
  refine ⟨l.exists_recorded, ?_, ?_⟩
  · intro v hv
    exact ⟨[], v.write, [], Text.only_nil, (hv.plain hkinds).written_write, Text.only_nil, by simp⟩
  · intro v text t p hv htext hread
    rw [load, hread]
    simp only [mapError_ok, ok_bind, ofBytes_of_written htext, ofJson_recorded hname hv]

/-- Escapes, a mark at the front of a name, characters of all planes and line ends of two kinds. -/
theorem load_of_written_escapes :
    let l : Layout := ⟨"\uFEFF\"\\\n\u2028😀", [⟨" Kīmō\r", .string "\x1f"⟩, ⟨"", .null⟩],
      [⟨"way4", .hallway⟩, ⟨"item", .deadEnd⟩]⟩
    let v : Json := .object [("name", .string l.name),
      ("spawn_objects", .array (l.entities.map Entity.record)),
      ("map_units", .array [
        .object [("unit", .string "way4"), ("room_type", .string "HallWAY")],
        .object [("unit", .string "item"), ("room_type", .string "alcove")]])]
    let text := "\r\n\t" ++ String.ofList v.write ++ "\r"
    let t : Tree := ⟨[], [(["a.json"], .file text.toUTF8.data.toList)]⟩
    load t (Path.ofString "a.json") = .ok l := by
  intro l v text t
  have hkinds : ∀ e ∈ l.entities, e.kind = .null ∨ ∃ s, e.kind = .string s := by
    simp [l]
  have hv : l.Recorded v :=
    .mk (.cons (.mk .hallway (by decide)) (.cons (.mk .alcove (by decide)) .nil))
  obtain ⟨-, htext, hload⟩ := load_of_written l (by decide) hkinds
  have hwritten : WrittenText v text.toList := by
    refine ⟨['\r', '\n', '\t'], v.write, ['\r'], by decide, (hv.plain hkinds).written_write,
      by decide, ?_⟩
    simp [text]
  exact hload v text t _ hv hwritten (by rfl)

end Layout

end LayoutQuery
