import LayoutQuery.Layout.Basic
import LayoutQuery.Proofs.Except

/-! # Decoding layouts
A value is decoded item by item, entities before units, and the first fault in that order is the one
reported. What a decoded layout holds and what the first fault is are stated on the value alone. -/
namespace LayoutQuery

/-- The values that count as nothing where a name is wanted. -/
inductive Json.Void : Json → Prop where
  | null : Void .null
  | untrue : Void (.bool false)
  | zero : Void (.integer 0)
  | binaryZero (negative : Bool) (exponent : Int) : Void (.number (.finite negative 0 exponent))
  | noText : Void (.string "")
  | noItems : Void (.array [])
  | noMembers : Void (.object [])

theorem Json.isVoid_iff {v : Json} : v.isVoid = true ↔ v.Void := by
  constructor
  · intro h
    cases v with
    | null => exact .null
    | bool b =>
      obtain rfl : b = false := by simpa [isVoid] using h
      exact .untrue
    | integer n =>
      obtain rfl : n = 0 := by simpa [isVoid] using h
      exact .zero
    | number x =>
      rw [isVoid] at h
      unfold Number.Binary.isZero at h
      split at h
      · exact .binaryZero _ _
      · cases h
    | string s =>
      obtain rfl : s = "" := by simpa [isVoid] using h
      exact .noText
    | array items =>
      obtain rfl : items = [] := by simpa [isVoid] using h
      exact .noItems
    | object members =>
      obtain rfl : members = [] := by simpa [isVoid] using h
      exact .noMembers
  · rintro (_ | _) <;> rfl

theorem Json.object_of_get? {name : String} {v w : Json} (h : v.get? name = some w) :
    ∃ members, v = .object members := by
  cases v with
  | object members => exact ⟨members, rfl⟩
  | _ => cases h

namespace Layout

/-- The items of a list member. Absent and null stand for the empty list. -/
inductive Lists (member : String) (v : Json) : List Json → Prop where
  | absent : v.get? member = none → Lists member v []
  | null : v.get? member = some .null → Lists member v []
  | list {items : List Json} : v.get? member = some (.array items) → Lists member v items

/-! ## Items -/

structure DecodedEntity (item : Json) (e : Entity) : Prop where
  name : item.get? "name" = some (.string e.name)
  kind : ∀ kind, item.get? "kind" = some kind → e.kind = kind
  kindless : item.get? "kind" = none → e.kind = .null

structure DecodedUnit (index : Nat) (item : Json) (u : MapUnit) : Prop where
  type : ∃ token, item.get? "room_type" = some (.string token) ∧
    RoomType.ofToken? token = some u.type
  name : ∀ name, item.get? "unit" = some name → u.name = name.display
  nameless : item.get? "unit" = none → u.name = "unit_" ++ Text.natural index

/-- An item that is no object, or has no text for a name. -/
inductive EntityFault (index : Nat) (item : Json) : Fault → Prop where
  | name : (∀ name, item.get? "name" ≠ some (.string name)) →
      EntityFault index item (.entityName index)

inductive UnitFault (index : Nat) (item : Json) : Fault → Prop where
  | roomType : (∀ token, item.get? "room_type" ≠ some (.string token)) →
      UnitFault index item (.unitRoomType index)
  | unknown {token : String} : item.get? "room_type" = some (.string token) →
      RoomType.ofToken? token = none → UnitFault index item (.unknownRoomType index token)

/-- The message tells which item of which member it is about. -/
def Fault.Names (f : Fault) (member : String) (index : Nat) : Prop :=
  ∃ rest, f.message = member ++ ("[" ++ (Text.natural index ++ ("]" ++ rest)))

/-- `good` and `bad` tell what an item of the member is decoded to and which fault it has. -/
structure Judges {α : Type} (decode : Nat → Json → Except Fault α) (member : String)
    (good : Nat → Json → α → Prop) (bad : Nat → Json → Fault → Prop) : Prop where
  ok : ∀ index item x, decode index item = .ok x ↔ good index item x
  error : ∀ index item f, decode index item = .error f ↔ bad index item f
  names : ∀ index item f, bad index item f → f.Names member index

theorem decodeEntity_eq_ok_iff {index : Nat} {item : Json} {e : Entity} :
    decodeEntity index item = .ok e ↔ DecodedEntity item e := by
  unfold decodeEntity
  constructor
  · intro h
    split at h
    next name hname =>
      cases h
      refine ⟨hname, ?_, ?_⟩
      · intro kind hkind
        simp [hkind]
      · intro hkind
        simp [hkind]
    next hname => cases h
  · rintro ⟨hname, hkind, hkindless⟩
    obtain ⟨name, kind⟩ := e
    rw [hname]
    cases hfound : item.get? "kind" with
    | none => rw [← hkindless hfound]; rfl
    | some found => rw [← hkind found hfound]; rfl

theorem decodeEntity_eq_error_iff {index : Nat} {item : Json} {f : Fault} :
    decodeEntity index item = .error f ↔ EntityFault index item f := by
  unfold decodeEntity
  constructor
  · intro h
    split at h
    next name hname => cases h
    next hname =>
      cases h
      exact .name hname
  · rintro ⟨hname⟩
    split
    next name hfound => exact absurd hfound (hname name)
    next => rfl

theorem decodeUnit_eq_ok_iff {index : Nat} {item : Json} {u : MapUnit} :
    decodeUnit index item = .ok u ↔ DecodedUnit index item u := by
  unfold decodeUnit
  constructor
  · intro h
    split at h
    next token htoken =>
      split at h
      next type htype =>
        cases h
        refine ⟨⟨token, htoken, htype⟩, ?_, ?_⟩
        · intro name hname
          simp [hname]
        · intro hname
          simp [hname]
      next htype => cases h
    next htoken => cases h
  · rintro ⟨⟨token, htoken, htype⟩, hname, hnameless⟩
    obtain ⟨name, type⟩ := u
    rw [htoken]
    simp only [htype]
    cases hfound : item.get? "unit" with
    | none => rw [Option.elim_none, ← hnameless hfound]
    | some found => rw [Option.elim_some, ← hname found hfound]

theorem decodeUnit_eq_error_iff {index : Nat} {item : Json} {f : Fault} :
    decodeUnit index item = .error f ↔ UnitFault index item f := by
  unfold decodeUnit
  constructor
  · intro h
    split at h
    next token htoken =>
      split at h
      next type htype => cases h
      next htype =>
        cases h
        exact .unknown htoken htype
    next htoken =>
      cases h
      exact .roomType htoken
  · intro h
    cases h with
    | roomType htoken =>
      split
      next token hfound => exact absurd hfound (htoken token)
      next => rfl
    | unknown htoken htype =>
      rw [htoken]
      simp only [htype]

theorem Fault.Names.mk {f : Fault} {member opening closing rest : String} {index : Nat}
    (hopening : opening = member ++ "[") (hclosing : closing = "]" ++ rest)
    (h : f.message = opening ++ Text.natural index ++ closing) : f.Names member index :=
  ⟨rest, by simp only [h, hopening, hclosing, String.append_assoc]⟩

theorem EntityFault.names {index : Nat} {item : Json} {f : Fault} (h : EntityFault index item f) :
    f.Names "spawn_objects" index := by
  obtain ⟨hname⟩ := h
  have hclosing : "] needs a string 'name'" = "]" ++ " needs a string 'name'" := by decide
  exact .mk (by decide) hclosing rfl

theorem UnitFault.names {index : Nat} {item : Json} {f : Fault} (h : UnitFault index item f) :
    f.Names "map_units" index := by
  cases h with
  | roomType htoken =>
    have hclosing : "] needs a string 'room_type'" = "]" ++ " needs a string 'room_type'" := by
      decide
    exact .mk (by decide) hclosing rfl
  | @unknown token htoken htype =>
    have hclosing : "] has unknown room_type " ++ Text.quoted token =
        "]" ++ (" has unknown room_type " ++ Text.quoted token) := by
      rw [← String.append_assoc]
      rfl
    exact .mk (by decide) hclosing String.append_assoc

theorem judges_entity :
    Judges decodeEntity "spawn_objects" (fun _ => DecodedEntity) EntityFault where
  ok _ _ _ := decodeEntity_eq_ok_iff
  error _ _ _ := decodeEntity_eq_error_iff
  names _ _ _ := EntityFault.names

theorem judges_unit : Judges decodeUnit "map_units" DecodedUnit UnitFault where
  ok _ _ _ := decodeUnit_eq_ok_iff
  error _ _ _ := decodeUnit_eq_error_iff
  names _ _ _ := UnitFault.names

/-! ## Lists -/

section Items

variable {α : Type} {decode : Nat → Json → Except Fault α}
  {good : Nat → Json → α → Prop} {bad : Nat → Json → Fault → Prop} {member : String} {v : Json}

/-- The items of a member in order, each decoded. -/
def DecodedList (good : Nat → Json → α → Prop) (member : String) (v : Json)
    (xs : List α) : Prop :=
  ∃ items, Lists member v items ∧ xs.length = items.length ∧
    ∀ index item x, items[index]? = some item → xs[index]? = some x → good index item x

/-- A member that is no list, or the fault of the first bad item, which the message names. -/
inductive ListFault (bad : Nat → Json → Fault → Prop) (member : String) (v : Json) :
    Fault → Prop where
  | notList {w : Json} : v.get? member = some w → w ≠ .null →
      (∀ items, w ≠ .array items) → ListFault bad member v (.notList member w.kind)
  | item {items : List Json} {index : Nat} {item : Json} {f : Fault} : Lists member v items →
      items[index]? = some item → bad index item f → f.Names member index →
      (∀ j < index, ∀ earlier, items[j]? = some earlier → ∀ f', ¬ bad j earlier f') →
      ListFault bad member v f

theorem decodeAll_eq_ok_iff {start : Nat} {items : List Json} {xs : List α} :
    decodeAll decode start items = .ok xs ↔ xs.length = items.length ∧
      ∀ index item x, items[index]? = some item → xs[index]? = some x →
        decode (start + index) item = .ok x := by
  induction items generalizing start xs with
  | nil => cases xs <;> simp [decodeAll]
  | cons v items ih =>
    -- The rest starts one place further on, and its places are counted from there.
    have hshift : ∀ index, start + 1 + index = start + (index + 1) := by
      intro index
      omega
    simp only [decodeAll, bind_eq_ok_iff, ih, hshift]
    constructor
    · rintro ⟨x, hx, ys, ⟨hlength, hys⟩, hxs⟩
      cases hxs
      refine ⟨congrArg Nat.succ hlength, ?_⟩
      intro index item y hitem hy
      cases index with
      | zero =>
        cases hitem
        cases hy
        exact hx
      | succ index => exact hys index item y hitem hy
    · rintro ⟨hlength, hxs⟩
      cases xs with
      | nil => simp at hlength
      | cons x ys =>
        refine ⟨x, hxs 0 v x rfl rfl, ys, ⟨Nat.succ.inj hlength, ?_⟩, rfl⟩
        intro index item y hitem hy
        exact hxs (index + 1) item y hitem hy

/-- The first item that is not decoded gives its fault to the whole. -/
theorem decodeAll_eq_error_iff {start : Nat} {items : List Json} {f : Fault} :
    decodeAll decode start items = .error f ↔ ∃ index item, items[index]? = some item ∧
      decode (start + index) item = .error f ∧
      ∀ j < index, ∀ earlier, items[j]? = some earlier →
        ∃ x, decode (start + j) earlier = .ok x := by
  induction items generalizing start with
  | nil => simp [decodeAll]
  | cons v items ih =>
    have hshift : ∀ index, start + 1 + index = start + (index + 1) := by
      intro index
      omega
    simp only [decodeAll, bind_eq_error_iff, ih, hshift]
    constructor
    · rintro (hv | ⟨x, hx, ⟨index, item, hitem, hf, hbefore⟩ | ⟨xs, -, hok⟩⟩)
      · exact ⟨0, v, rfl, hv, fun j hj => absurd hj (Nat.not_lt_zero j)⟩
      · refine ⟨index + 1, item, hitem, hf, ?_⟩
        intro j hj earlier hearlier
        cases j with
        | zero =>
          cases hearlier
          exact ⟨x, hx⟩
        | succ j => exact hbefore j (Nat.lt_of_succ_lt_succ hj) earlier hearlier
      · cases hok
    · rintro ⟨index, item, hitem, hf, hbefore⟩
      cases index with
      | zero =>
        cases hitem
        exact .inl hf
      | succ index =>
        obtain ⟨x, hx⟩ := hbefore 0 (Nat.succ_pos index) v rfl
        refine .inr ⟨x, hx, .inl ⟨index, item, hitem, hf, ?_⟩⟩
        intro j hj earlier hearlier
        exact hbefore (j + 1) (Nat.succ_lt_succ hj) earlier hearlier

theorem listMember_eq_ok_iff {items : List Json} :
    listMember member v = .ok items ↔ Lists member v items := by
  unfold listMember
  constructor
  · intro h
    split at h
    next hget =>
      cases h
      exact .absent hget
    next hget =>
      cases h
      exact .null hget
    next found hget =>
      cases h
      exact .list hget
    next => cases h
  · rintro (hget | hget | hget) <;> rw [hget]

theorem listMember_eq_error_iff {f : Fault} :
    listMember member v = .error f ↔ ∃ w, v.get? member = some w ∧ w ≠ .null ∧
      (∀ items, w ≠ .array items) ∧ f = .notList member w.kind := by
  unfold listMember
  constructor
  · intro h
    split at h
    next => cases h
    next => cases h
    next => cases h
    next w hnull hitems hget =>
      cases h
      exact ⟨w, hget, hnull, hitems, rfl⟩
  · rintro ⟨w, hget, hnull, hitems, rfl⟩
    rw [hget]
    cases w with
    | null => exact absurd rfl hnull
    | array items => exact absurd rfl (hitems items)
    | _ => rfl

theorem Judges.list_eq_ok_iff (h : Judges decode member good bad) {xs : List α} :
    listMember member v >>= decodeAll decode 0 = .ok xs ↔ DecodedList good member v xs := by
  simp only [bind_eq_ok_iff, listMember_eq_ok_iff, decodeAll_eq_ok_iff, Nat.zero_add, h.ok]
  rfl

theorem Judges.list_eq_error_iff (h : Judges decode member good bad) {f : Fault} :
    listMember member v >>= decodeAll decode 0 = .error f ↔ ListFault bad member v f := by
  simp only [bind_eq_error_iff, listMember_eq_error_iff, listMember_eq_ok_iff,
    decodeAll_eq_error_iff, Nat.zero_add, exists_ok_iff, ne_eq, h.error]
  constructor
  · rintro (⟨w, hget, hnull, hitems, rfl⟩ | ⟨items, hlists, index, item, hitem, hbad, hbefore⟩)
    · exact .notList hget hnull hitems
    · exact .item hlists hitem hbad (h.names _ _ _ hbad) hbefore
  · rintro (⟨hget, hnull, hitems⟩ | ⟨hlists, hitem, hbad, -, hbefore⟩)
    · exact .inl ⟨_, hget, hnull, hitems, rfl⟩
    · exact .inr ⟨_, hlists, _, _, hitem, hbad, hbefore⟩

theorem Judges.not_bad (h : Judges decode member good bad) {index : Nat} {item : Json} {x : α}
    (hgood : good index item x) (f : Fault) : ¬ bad index item f := by
  intro hbad
  cases ((h.ok _ _ _).mpr hgood).symm.trans ((h.error _ _ _).mpr hbad)

theorem Judges.not_listFault (h : Judges decode member good bad) {xs : List α}
    (hdecoded : DecodedList good member v xs) (f : Fault) : ¬ ListFault bad member v f := by
  intro hfault
  cases (h.list_eq_ok_iff.mpr hdecoded).symm.trans (h.list_eq_error_iff.mpr hfault)

/-- A member is decoded if each of its items is. -/
theorem Judges.exists_decoded (h : Judges decode member good bad) {items : List Json}
    (hlists : Lists member v items)
    (hitems : ∀ index item, items[index]? = some item → ∃ x, good index item x) :
    ∃ xs, DecodedList good member v xs := by
  simp only [← h.list_eq_ok_iff]
  apply exists_ok_iff.mpr
  intro f hf
  rw [bind_eq_error_iff, listMember_eq_ok_iff.mpr hlists] at hf
  rcases hf with hlist | ⟨found, hfound, hall⟩
  · cases hlist
  · cases hfound
    obtain ⟨index, item, hitem, hdecode, -⟩ := decodeAll_eq_error_iff.mp hall
    obtain ⟨x, hx⟩ := hitems index item hitem
    rw [Nat.zero_add] at hdecode
    exact h.not_bad hx f ((h.error _ _ _).mp hdecode)

end Items

/-! ## Layouts -/

/-- What a value that is decoded holds. -/
structure Decoded (defaultName : String) (v : Json) (l : Layout) : Prop where
  object : ∃ members, v = .object members
  entities : DecodedList (fun _ => DecodedEntity) "spawn_objects" v l.entities
  units : DecodedList DecodedUnit "map_units" v l.units
  name : ∀ name, v.get? "name" = some name → ¬ name.Void → l.name = name.display
  nameless : (∀ name, v.get? "name" = some name → name.Void) → l.name = defaultName

/-- The first fault of a value: units are looked at when the entities have none. -/
inductive FirstFault (v : Json) : Fault → Prop where
  | notObject : (∀ members, v ≠ .object members) → FirstFault v (.notObject v.kind)
  | entities {members : List (String × Json)} {f : Fault} : v = .object members →
      ListFault EntityFault "spawn_objects" v f → FirstFault v f
  | units {members : List (String × Json)} {f : Fault} : v = .object members →
      (∀ f', ¬ ListFault EntityFault "spawn_objects" v f') →
      ListFault UnitFault "map_units" v f → FirstFault v f

variable {defaultName : String} {v : Json} {l : Layout} {f : Fault}

theorem decodeName_eq_iff {name : String} :
    decodeName defaultName v = name ↔
      (∀ w, v.get? "name" = some w → ¬ w.Void → name = w.display) ∧
      ((∀ w, v.get? "name" = some w → w.Void) → name = defaultName) := by
  unfold decodeName
  cases hget : v.get? "name" with
  | none => simp [eq_comm]
  | some w =>
    by_cases hvoid : w.Void
    · simp [Json.isVoid_iff.mpr hvoid, hvoid, eq_comm]
    · have hfilled : w.isVoid = false := Bool.eq_false_iff.mpr (mt Json.isVoid_iff.mp hvoid)
      simp [hfilled, hvoid, eq_comm]

theorem ofJson_object (members : List (String × Json)) :
    ofJson defaultName (.object members) =
      (listMember "spawn_objects" (.object members) >>= decodeAll decodeEntity 0) >>= fun entities =>
        (listMember "map_units" (.object members) >>= decodeAll decodeUnit 0) >>= fun units =>
          .ok ⟨decodeName defaultName (.object members), entities, units⟩ := by
  simp only [ofJson, bind_assoc]

theorem ofJson_of_not_object (h : ∀ members, v ≠ .object members) :
    ofJson defaultName v = .error (.notObject v.kind) := by
  cases v with
  | object members => exact absurd rfl (h members)
  | _ => rfl

theorem ofJson_eq_error_iff : ofJson defaultName v = .error f ↔ FirstFault v f := by
  constructor
  · intro h
    cases v with
    | object members =>
      rw [ofJson_object, bind_eq_error_iff, judges_entity.list_eq_error_iff] at h
      rcases h with hentities | ⟨entities, hentities, h⟩
      · exact .entities rfl hentities
      have hnone := exists_ok_iff.mp ⟨entities, hentities⟩
      simp only [ne_eq, judges_entity.list_eq_error_iff] at hnone
      rw [bind_eq_error_iff, judges_unit.list_eq_error_iff] at h
      rcases h with hunits | ⟨units, -, hok⟩
      · exact .units rfl hnone hunits
      · cases hok
    | _ =>
      cases h
      exact .notObject (by simp)
  · intro h
    cases h with
    | notObject hobject => exact ofJson_of_not_object hobject
    | entities hv hentities =>
      subst hv
      rw [ofJson_object, bind_eq_error_iff, judges_entity.list_eq_error_iff]
      exact .inl hentities
    | units hv hnone hunits =>
      subst hv
      -- Entities without a fault are decoded, and so the units are reached.
      obtain ⟨entities, hentities⟩ := exists_ok_iff.mpr fun e he =>
        hnone e (judges_entity.list_eq_error_iff.mp he)
      rw [ofJson_object, bind_eq_error_iff]
      refine .inr ⟨entities, hentities, ?_⟩
      rw [bind_eq_error_iff, judges_unit.list_eq_error_iff]
      exact .inl hunits

theorem ofJson_eq_ok_iff : ofJson defaultName v = .ok l ↔ Decoded defaultName v l := by
  constructor
  · intro h
    cases v with
    | object members =>
      rw [ofJson_object] at h
      obtain ⟨entities, hentities, h⟩ := bind_eq_ok_iff.mp h
      obtain ⟨units, hunits, h⟩ := bind_eq_ok_iff.mp h
      obtain ⟨hname, hnameless⟩ :=
        decodeName_eq_iff.mp (rfl : decodeName defaultName (.object members) = _)
      cases h
      exact ⟨⟨members, rfl⟩, judges_entity.list_eq_ok_iff.mp hentities,
        judges_unit.list_eq_ok_iff.mp hunits, hname, hnameless⟩
    | _ => cases h
  · rintro ⟨⟨members, rfl⟩, hentities, hunits, hname, hnameless⟩
    rw [ofJson_object, bind_eq_ok_iff]
    refine ⟨l.entities, judges_entity.list_eq_ok_iff.mpr hentities, ?_⟩
    rw [bind_eq_ok_iff]
    refine ⟨l.units, judges_unit.list_eq_ok_iff.mpr hunits, ?_⟩
    rw [decodeName_eq_iff.mpr ⟨hname, hnameless⟩]

theorem exists_ofJson_eq_ok (hobject : ∃ members, v = .object members) {entities : List Entity}
    {units : List MapUnit}
    (hentities : DecodedList (fun _ => DecodedEntity) "spawn_objects" v entities)
    (hunits : DecodedList DecodedUnit "map_units" v units) : ∃ l, ofJson defaultName v = .ok l := by
  obtain ⟨hname, hnameless⟩ := decodeName_eq_iff.mp (rfl : decodeName defaultName v = _)
  exact ⟨⟨_, entities, units⟩, ofJson_eq_ok_iff.mpr ⟨hobject, hentities, hunits, hname, hnameless⟩⟩

/-- The second entity is bad, and the units are not looked at. -/
example :
    ofJson "layout" (.object [("map_units", .integer 3),
      ("spawn_objects", .array
        [.object [("name", .string " a ")], .object [("kind", .null)], .null])]) =
          .error (.entityName 1) := rfl

end Layout

end LayoutQuery
