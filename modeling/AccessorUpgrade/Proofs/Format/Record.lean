import AccessorUpgrade.Format.Record
import AccessorUpgrade.Proofs.Format.Exact

/-!
# Exact records

A record is exact if its fields are (`Fields.Exact.record`). For writing and reading back, the slots
are followed along the members that the fields themselves write, each of which fills its own slot
only (`Fields.takeAll_cons`); so no two fields may have one name. For the values that are read at
all, in whatever order the members come, an invariant of the slots is kept (`Fields.Invariant`).
-/

namespace AccessorUpgrade

open Format

variable {α β : Type} {valid : α → Prop} {depth : Nat}

/-! ## Fields -/

namespace Field

/-- The values of a field are kept, also where the field is left out. -/
structure Exact (f : Field α) (depth : Nat) (valid : α → Prop) : Prop where
  format : f.format.Exact depth valid
  absent : ∀ a ∈ f.absent, valid a
  short : ∀ a ∈ f.short, valid a
  omits {a : α} : f.omits a = true → f.absent = some a

section

variable {f : Format α} {name : String}

/-- A field that has to be there is exact if its format is. -/
theorem Exact.required (h : f.Exact depth valid) : (Field.required name f).Exact depth valid where
  format := h
  absent := nofun
  short := nofun
  omits := nofun

/-- A field that is always written is exact if its format is and the value by default is valid. -/
theorem Exact.withDefault (h : f.Exact depth valid) {value : α} (hvalue : valid value) :
    (Field.withDefault name f value).Exact depth valid where
  format := h
  absent _ ha := Option.some.inj ha ▸ hvalue
  short _ ha := Option.some.inj ha ▸ hvalue
  omits := nofun

/-- A field that is left out without a value is exact if its format is and never writes null. -/
theorem Exact.optional (h : f.Exact depth valid) (hnull : ∀ a, f.encode a ≠ .null) :
    (Field.optional name f).Exact depth fun o => ∀ a ∈ o, valid a where
  format := h.nullable hnull
  absent _ ha := Option.some.inj ha ▸ nofun
  short _ ha := Option.some.inj ha ▸ nofun
  omits ha := congrArg some (Option.isNone_iff_eq_none.mp ha).symm

/-- A field that is null without a value is exact if its format is and never writes null. -/
theorem Exact.nullable (h : f.Exact depth valid) (hnull : ∀ a, f.encode a ≠ .null) :
    (Field.nullable name f).Exact depth fun o => ∀ a ∈ o, valid a where
  format := h.nullable hnull
  absent _ ha := Option.some.inj ha ▸ nofun
  short := nofun
  omits := nofun

/-- A list that is left out without items is exact if the format of its items is. -/
theorem Exact.optionalList (h : f.Exact depth valid) :
    (Field.optionalList name f).Exact (depth + 1) fun items => ∀ a ∈ items, valid a where
  format := h.list
  absent _ ha := Option.some.inj ha ▸ nofun
  short _ ha := Option.some.inj ha ▸ nofun
  omits ha := congrArg some (List.isEmpty_iff.mp ha).symm

end

variable {f : Field α} {slot : Option α} {source : Source}

/-- A field writes a member under its name, if at all. -/
theorem eq_of_mem_member? {a : α} {member : String × Json}
    (h : member ∈ (f.member? a).toList) : member = (f.name, f.format.encode a) := by
  rw [member?] at h
  split at h
  · cases h
  · exact List.mem_singleton.mp h

/-- A slot is filled with what is read. -/
theorem exists_of_fill {value : Json} {filled : Option α}
    (h : f.fill source value slot = .ok filled) :
    ∃ a, f.format.decode source value = .ok a ∧ some a = filled := by
  cases slot with
  | some a => cases h
  | none => exact exists_of_map h

/-- What a slot holds after it has been filled is valid. -/
theorem Exact.valid_of_fill (h : f.Exact depth valid) {value : Json} {filled : Option α}
    (hfill : f.fill source value slot = .ok filled) : ∀ a ∈ filled, valid a := by
  obtain ⟨a, ha, rfl⟩ := exists_of_fill hfill
  simpa using h.format.valid_of_decode ha

/-- The value at the end of an object is valid if the slot's is. -/
theorem Exact.valid_of_settle (h : f.Exact depth valid) (hslot : ∀ a ∈ slot, valid a) {a : α}
    (hsettle : f.settle slot = .ok a) : valid a := by
  cases hvalue : slot.or f.absent with
  | none => simp [settle, hvalue] at hsettle
  | some b =>
    obtain rfl : b = a := by simpa [settle, hvalue] using hsettle
    obtain hb | ⟨-, hb⟩ := Option.or_eq_some_iff.mp hvalue
    · exact hslot b hb
    · exact h.absent b hb

/-- The next value in an array is valid. -/
theorem Exact.valid_of_next (h : f.Exact depth valid) {ending : Json.Ending} {expected : String}
    {before : Nat} {items rest : List Json} {a : α}
    (hnext : f.next source ending expected before items = .ok (a, rest)) : valid a := by
  cases items with
  | nil =>
    by_cases hending : ending = .closed
    · cases hshort : f.short with
      | none => simp [next, supply, hending, hshort, Except.map] at hnext
      | some b =>
        obtain ⟨rfl, -⟩ : b = a ∧ [] = rest := by
          simpa [next, supply, hending, hshort, Except.map] using hnext
        exact h.short b hshort
    · simp [next, supply, hending, Except.map] at hnext
  | cons value items =>
    obtain ⟨b, hvalue, hb⟩ := exists_of_map hnext
    obtain ⟨rfl, -⟩ := Prod.mk.inj hb
    exact h.format.valid_of_decode hvalue

end Field

/-! ## Several fields -/

namespace Fields

/-- What holds of the slots at the start, whatever members are taken up, and so that what is made of
them in the end is valid. -/
structure Invariant (a : Fields α) (valid : α → Prop) (holds : a.Slots → Prop) : Prop where
  start : holds a.start
  take {source : Source} {key : String} {value : Json} {slots slots' : a.Slots} :
    a.take source key value slots = .ok slots' → holds slots → holds slots'
  finish {slots : a.Slots} {v : α} : a.finish slots = .ok v → holds slots → valid v

/-- The valid values of the fields are read back from the members that are written for them, and no
others are read. -/
structure Exact (a : Fields α) (depth : Nat) (valid : α → Prop) : Prop where
  writable {v : α} : valid v → ∀ member ∈ a.members v, Json.Writable depth member.2
  mem_names (v : α) : ∀ member ∈ a.members v, member.1 ∈ a.names
  takeAll_members (source : Source) {v : α} : a.names.Nodup → valid v →
    ∃ slots, a.takeAll source (a.members v) a.start = .ok slots ∧ a.finish slots = .ok v
  invariant : ∃ holds, a.Invariant valid holds
  items {source : Source} {ending : Json.Ending} {expected : String} {before : Nat}
    {items rest : List Json} {v : α} :
    a.items source ending expected before items = .ok (v, rest) → valid v

/-- The first member is taken up before the others, or has none of the keys and is skipped. -/
theorem cases_of_takeAll_cons {a : Fields α} {source : Source} {key : String} {value : Json}
    {members : List (String × Json)} {slots slots' : a.Slots}
    (h : a.takeAll source ((key, value) :: members) slots = .ok slots') :
    (∃ first, a.take source key value slots = .ok first ∧
      a.takeAll source members first = .ok slots') ∨
    (key ∉ a.names ∧ a.takeAll source members slots = .ok slots') := by
  rw [takeAll] at h
  split at h
  · split at h
    · cases h
    next first hfirst => exact .inl ⟨first, hfirst, h⟩
  · next hkey =>
    split at h
    · exact .inr ⟨fun hmem => hkey (List.contains_iff_mem.mpr hmem), h⟩
    · cases h

/-- What holds at the start holds after some members. -/
theorem Invariant.takeAll {a : Fields α} {holds : a.Slots → Prop} (h : a.Invariant valid holds)
    {source : Source} {members : List (String × Json)} {slots slots' : a.Slots}
    (htake : a.takeAll source members slots = .ok slots') (hslots : holds slots) :
    holds slots' := by
  induction members generalizing slots with
  | nil => exact Except.ok.inj htake ▸ hslots
  | cons member members ih =>
    obtain ⟨first, hfirst, hrest⟩ | ⟨-, hrest⟩ := cases_of_takeAll_cons htake
    · exact ih hrest (h.take hfirst hslots)
    · exact ih hrest hslots

/-- When all members are taken up, so is each that has one of the keys. -/
theorem exists_take_of_takeAll {a : Fields α} {source : Source} {key : String} {value : Json}
    {members : List (String × Json)} {slots slots' : a.Slots}
    (h : a.takeAll source members slots = .ok slots') (hmem : (key, value) ∈ members)
    (hkey : key ∈ a.names) : ∃ before after, a.take source key value before = .ok after := by
  induction members generalizing slots with
  | nil => cases hmem
  | cons member members ih =>
    obtain ⟨first, hfirst, hrest⟩ | ⟨hother, hrest⟩ := cases_of_takeAll_cons h
    · obtain rfl | hmem := List.mem_cons.mp hmem
      · exact ⟨slots, first, hfirst⟩
      · exact ih hrest hmem
    · obtain rfl | hmem := List.mem_cons.mp hmem
      · exact absurd hkey hother
      · exact ih hrest hmem

variable {f : Field α} {others : Fields β} {valid' : β → Prop}

/-- A member with one of the keys is taken up before the rest. -/
theorem takeAll_of_mem (a : Fields α) {key : String} (h : key ∈ a.names) (source : Source)
    (value : Json) (members : List (String × Json)) (slots : a.Slots) :
    a.takeAll source ((key, value) :: members) slots =
      (a.take source key value slots).bind (a.takeAll source members) := by
  rw [takeAll, if_pos (List.contains_iff_mem.mpr h)]
  cases a.take source key value slots <;> rfl

/-- The members of other fields leave the slot of the first field alone. -/
theorem takeAll_cons (hname : f.name ∉ others.names) {source : Source} (slot : Option α)
    {members : List (String × Json)} (hmembers : ∀ member ∈ members, member.1 ∈ others.names)
    (slots : others.Slots) :
    (cons f others).takeAll source members (slot, slots) =
      (others.takeAll source members slots).map (slot, ·) := by
  induction members generalizing slots with
  | nil => rfl
  | cons member members ih =>
    obtain ⟨key, value⟩ := member
    obtain ⟨hkey, hmembers⟩ := List.forall_mem_cons.mp hmembers
    have hkey : key ∈ others.names := hkey
    have hne : (key == f.name) = false := by
      rw [beq_eq_false_iff_ne]
      rintro rfl
      exact hname hkey
    have htake : (cons f others).take source key value (slot, slots) =
        (others.take source key value slots).map (slot, ·) := by
      simp only [cons, hne, Bool.false_eq_true, if_false]
    rw [takeAll_of_mem others hkey]
    -- The slots are a pair only by the definition of `cons`, which a rewrite does not see.
    refine (takeAll_of_mem (cons f others) (List.mem_cons_of_mem _ hkey) _ _ _ _).trans ?_
    rw [htake]
    cases others.take source key value slots with
    | error e => rfl
    | ok slots => exact ih hmembers slots

/-- No fields are exact. -/
theorem Exact.nil : Fields.nil.Exact depth fun _ => True where
  writable _ := nofun
  mem_names _ := nofun
  takeAll_members _ _ _ _ := ⟨(), rfl, rfl⟩
  invariant := ⟨fun _ => True, ⟨trivial, fun _ _ => trivial, fun _ _ => trivial⟩⟩
  items _ := trivial

/-- What is written for the first field fills its slot. -/
theorem takeAll_member? (hf : f.Exact depth valid) (others : Fields β) {a : α} (ha : valid a)
    (source : Source) :
    ∃ slot, f.settle slot = .ok a ∧ ∀ members, (cons f others).takeAll source
      ((f.member? a).toList ++ members) (cons f others).start =
        (cons f others).takeAll source members (slot, others.start) := by
  cases homits : f.omits a with
  | true =>
    -- The slot stays empty, and the value is the one that stands for an empty slot.
    refine ⟨none, by simp [Field.settle, hf.omits homits], fun members => ?_⟩
    simp only [Field.member?, homits, if_true]
    rfl
  | false =>
    refine ⟨some a, rfl, fun members => ?_⟩
    have htake : (cons f others).take source f.name (f.format.encode a) (cons f others).start =
        .ok (some a, others.start) := by
      simp only [cons, beq_self_eq_true, if_true, Field.fill, hf.format.decode_encode source ha]
      rfl
    simp only [Field.member?, homits, Bool.false_eq_true, if_false, Option.toList_some,
      List.singleton_append]
    rw [takeAll_of_mem (cons f others) List.mem_cons_self, htake]
    rfl

/-- An exact field before exact fields. -/
theorem Exact.cons (hf : f.Exact depth valid) (h : others.Exact depth valid') :
    (Fields.cons f others).Exact depth fun v => valid v.1 ∧ valid' v.2 where
  writable {v} hv member hmember := by
    obtain hfirst | hothers := List.mem_append.mp hmember
    · exact Field.eq_of_mem_member? hfirst ▸ hf.format.writable hv.1
    · exact h.writable hv.2 member hothers
  mem_names v member hmember := by
    obtain hfirst | hothers := List.mem_append.mp hmember
    · exact Field.eq_of_mem_member? hfirst ▸ List.mem_cons_self
    · exact List.mem_cons_of_mem _ (h.mem_names v.2 member hothers)
  takeAll_members source {v} hnames hv := by
    obtain ⟨hname, hrest⟩ := List.nodup_cons.mp hnames
    obtain ⟨slots, htake, hfinish⟩ := h.takeAll_members source hrest hv.2
    obtain ⟨slot, hsettle, hfirst⟩ := takeAll_member? hf others hv.1 source
    refine ⟨(slot, slots), ?_, ?_⟩
    · exact (hfirst _).trans (by rw [takeAll_cons hname slot (h.mem_names v.2), htake]; rfl)
    · simp only [Fields.cons, hsettle, hfinish]
      rfl
  invariant := by
    obtain ⟨holds, hinv⟩ := h.invariant
    refine ⟨fun slots => (∀ a ∈ slots.1, valid a) ∧ holds slots.2, ⟨nofun, hinv.start⟩, ?_, ?_⟩
    · intro source key value slots slots' htake hslots
      simp only [Fields.cons] at htake
      split at htake
      · obtain ⟨filled, hfill, rfl⟩ := exists_of_map htake
        exact ⟨hf.valid_of_fill hfill, hslots.2⟩
      · obtain ⟨slots'', hother, rfl⟩ := exists_of_map htake
        exact ⟨hslots.1, hinv.take hother hslots.2⟩
    · intro slots v hfinish hslots
      simp only [Fields.cons] at hfinish
      split at hfinish
      · cases hfinish
      next first hsettle =>
        obtain ⟨second, hother, rfl⟩ := exists_of_map hfinish
        exact ⟨hf.valid_of_settle hslots.1 hsettle, hinv.finish hother hslots.2⟩
  items {source ending expected before items rest v} hitems := by
    simp only [Fields.cons] at hitems
    split at hitems
    · cases hitems
    next first others' hnext =>
      obtain ⟨⟨second, rest'⟩, hother, hpair⟩ := exists_of_map hitems
      obtain ⟨rfl, -⟩ := Prod.mk.inj hpair
      exact ⟨hf.valid_of_next hnext, h.items hother⟩

/-- Members are taken up alike for another type. -/
theorem takeAll_map {a : Fields α} {make : α → β} {back : β → α} (source : Source)
    (members : List (String × Json)) (slots : a.Slots) :
    (a.map make back).takeAll source members slots = a.takeAll source members slots := by
  induction members generalizing slots with
  | nil => rfl
  | cons member members ih =>
    by_cases hkey : member.1 ∈ a.names
    · have hleft := takeAll_of_mem (a.map make back) hkey source member.2 members slots
      exact (hleft.trans (congrArg _ (funext ih))).trans
        (takeAll_of_mem a hkey source member.2 members slots).symm
    · have hcontains : ¬a.names.contains member.1 = true := mt List.contains_iff_mem.mp hkey
      simp only [takeAll, ih]
      exact (if_neg hcontains).trans (if_neg hcontains).symm

/-- The same fields for another type stay exact. -/
theorem Exact.map {a : Fields α} (h : a.Exact depth valid) {make : α → β} {back : β → α}
    (hmake : ∀ b, make (back b) = b) (hback : ∀ v, back (make v) = v) :
    (a.map make back).Exact depth fun b => valid (back b) where
  writable hb := h.writable hb
  mem_names b := h.mem_names (back b)
  takeAll_members source {b} hnames hb := by
    obtain ⟨slots, htake, hfinish⟩ := h.takeAll_members source hnames hb
    refine ⟨slots, (takeAll_map source _ _).trans htake, ?_⟩
    simp only [Fields.map, hfinish, Except.map, hmake]
  invariant := by
    obtain ⟨holds, hinv⟩ := h.invariant
    refine ⟨holds, hinv.start, fun htake => hinv.take htake, fun {slots b} hfinish hslots => ?_⟩
    obtain ⟨v, hv, rfl⟩ := exists_of_map hfinish
    exact (hback v).symm ▸ hinv.finish hv hslots
  items {source ending expected before items rest b} hitems := by
    obtain ⟨⟨v, rest'⟩, hv, hpair⟩ := exists_of_map hitems
    obtain ⟨rfl, -⟩ := Prod.mk.inj hpair
    exact (hback v).symm ▸ h.items hv

/-! ## Formats of records -/

/-- A record never is null. -/
theorem format_ne_null (a : Fields α) (title : String) (v : α) :
    (a.format title).encode v ≠ .null := nofun

/-- The format of records with exact fields, all of different names, is exact. -/
theorem Exact.format {a : Fields α} (h : a.Exact depth valid) (hnames : a.names.Nodup)
    (title : String) : (a.format title).Exact (depth + 1) valid where
  writable hv := .record (h.writable hv)
  decode_encode source {v} hv := by
    obtain ⟨slots, htake, hfinish⟩ := h.takeAll_members source hnames hv
    simp [Fields.format, Json.record, ofObject, htake, hfinish]
  valid_of_decode {source value v} hread := by
    obtain ⟨holds, hinv⟩ := h.invariant
    cases value with
    | object members ending =>
      simp only [Fields.format, ofObject] at hread
      split at hread
      · cases hread
      next slots htake =>
        split at hread
        · exact hinv.finish hread (hinv.takeAll htake hinv.start)
        · cases hread
    | array items ending =>
      simp only [Fields.format, ofArray] at hread
      split at hread
      · cases hread
      next v' rest hitems =>
        have hv : v' = v := by
          split at hread
          · cases hread
          · split at hread
            · exact Except.ok.inj hread
            · cases hread
        exact hv ▸ h.items hitems
    | _ => simp [Fields.format] at hread

/-- The format of another type with such fields is exact. -/
theorem Exact.record {a : Fields α} (h : a.Exact depth valid) {valid' : β → Prop} {make : α → β}
    {back : β → α} {title : String} (hnames : a.names.Nodup) (hmake : ∀ b, make (back b) = b)
    (hback : ∀ v, back (make v) = v) (hvalid : ∀ b, valid (back b) ↔ valid' b) :
    ((a.map make back).format title).Exact (depth + 1) valid' :=
  ((h.map hmake hback).format hnames title).congr hvalid

end Fields

end AccessorUpgrade
