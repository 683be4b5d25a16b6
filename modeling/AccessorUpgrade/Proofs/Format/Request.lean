import AccessorUpgrade.Proofs.Format.Method

/-!
# Exact formats of requests

A request tells types in its call and in its upgrade; its format is exact if they have a spelling.
An extra stands among the members of its tag. The members that belong to it have other keys than the
tag and values throughout (`Extra.parts_record`), so they are set aside as they are.
-/

namespace AccessorUpgrade

open Format

variable {depth : Nat}

/-! ## Calls and upgrades -/

/-- Both kinds of calls are kept. -/
theorem CallKind.exact : CallKind.format.Exact depth fun _ => True :=
  constants_exact fun kind => by cases kind <;> rfl

/-- Both roles are kept. -/
theorem ParameterRole.exact : ParameterRole.format.Exact depth fun _ => True :=
  constants_exact fun role => by cases role <;> rfl

/-- A parameter of a call is kept if its type has a spelling. -/
theorem CallParameter.exact :
    CallParameter.format.Exact (depth + 1) fun p => p.type.IsSpelled := by
  refine Fields.Exact.record
    (.cons (.required string_exact) <|
      .cons (.required ErasedType.exact) <|
      .cons (.required ParameterRole.exact) .nil)
    (by decide) (fun _ => rfl) (fun _ => rfl) fun p => ?_
  simp

/-- The types that a call tells: its owner, what it returns and its parameters. -/
def Call.types (c : Call) : List ErasedType :=
  c.owner :: c.returnType :: c.parameters.map (·.type)

/-- A call is kept if its types have a spelling. -/
theorem Call.exact : Call.format.Exact (depth + 3) fun c => ∀ t ∈ c.types, t.IsSpelled := by
  refine Fields.Exact.record
    (.cons (.required CallKind.exact) <|
      .cons (.required ErasedType.exact) <|
      .cons (.required string_exact) <|
      .cons (.required ErasedType.exact) <|
      .cons (.required CallParameter.exact.list) .nil)
    (by decide) (fun _ => rfl) (fun _ => rfl) fun c => ?_
  simp [Call.types]

/-- All bindings are kept. -/
theorem Binding.exact : Binding.format.Exact (depth + 1) fun _ => True := by
  refine Fields.Exact.record
    (.cons (.required string_exact) <|
      .cons (.required string_exact) <|
      .cons (.required string_exact) .nil)
    (by decide) (fun _ => rfl) (fun _ => rfl) fun b => ?_
  simp

/-- Both channels are kept. -/
theorem Channel.exact : Channel.format.Exact depth fun _ => True :=
  constants_exact fun channel => by cases channel <;> rfl

/-- All kinds of properties are kept. -/
theorem PropertyKind.exact : PropertyKind.format.Exact depth fun _ => True :=
  constants_exact fun kind => by cases kind <;> rfl

/-- An upgrade is kept if the former type has a spelling. -/
theorem Upgrade.exact : Upgrade.format.Exact (depth + 1) fun u => u.formerType.IsSpelled := by
  refine Fields.Exact.record
    (.cons (.required string_exact) <|
      .cons (.required boolean_exact) <|
      .cons (.required string_exact) <|
      .cons (.required string_exact) <|
      .cons (.required string_exact) <|
      .cons (.required ErasedType.exact) <|
      .cons (.required PropertyKind.exact) .nil)
    (by decide) (fun _ => rfl) (fun _ => rfl) fun u => ?_
  simp

/-! ## Extras -/

namespace Extra

/-- The types that an extra tells. -/
def types : Extra → List ErasedType
  | upgrade u => [u.formerType]
  | _ => []

/-- Whatever belongs to an extra that tells the site is kept. -/
theorem elementFormat_exact : elementFormat.Exact (depth + 2) fun _ => True := by
  refine Fields.Exact.record (.cons (.required Site.exact) .nil)
    (by decide) (fun _ => rfl) (fun _ => rfl) fun site => ?_
  simp

/-- Whatever belongs to an extra that tells the channel is kept. -/
theorem interceptFormat_exact : interceptFormat.Exact (depth + 1) fun _ => True := by
  refine Fields.Exact.record
    (.cons (.required Channel.exact) <|
      .cons (.required string_exact) .nil)
    (by decide) (fun _ => rfl) (fun _ => rfl) fun v => ?_
  simp

/-- What belongs to an extra is an object in which no key is the key of the tag. -/
theorem parts_record (extra : Extra) :
    ∃ members, extra.parts.2 = .record members ∧ ∀ member ∈ members, member.1 ≠ tagKey := by
  cases extra with
  | element site => exact ⟨[("location", _)], rfl, by simp [tagKey]⟩
  | intercept channel registrationClass =>
    exact ⟨[("channel", _), ("registration_class", _)], rfl, by simp [tagKey]⟩
  | upgrade u =>
    exact ⟨[("propertyName", _), ("fluentSetter", _), ("adapterClass", _),
      ("originalMethodName", _), ("originalMethodDescriptor", _), ("originalType", _),
      ("upgradedType", _)], rfl, by simp [tagKey]⟩

variable {extra : Extra}

/-- What belongs to an extra is written with its own format. -/
theorem writable_parts (h : ∀ t ∈ extra.types, t.IsSpelled) :
    Json.Writable (depth + 2) extra.parts.2 := by
  cases extra with
  | element site => exact elementFormat_exact.writable trivial
  | intercept channel registrationClass => exact interceptFormat_exact.writable trivial
  | upgrade u => exact Upgrade.exact.writable (h _ List.mem_cons_self)

/-- What belongs to an extra is read with its own format. -/
theorem decodeContents_parts (h : ∀ t ∈ extra.types, t.IsSpelled) :
    decodeContents extra.parts.2 extra.parts.1 = .ok extra := by
  cases extra with
  | element site =>
    have hread : elementFormat.decode .buffered (elementFormat.encode site) = .ok site :=
      (@elementFormat_exact 0).decode_encode .buffered trivial
    simp [parts, decodeContents, hread, Except.map]
  | intercept channel registrationClass =>
    have hread : interceptFormat.decode .buffered
        (interceptFormat.encode (channel, registrationClass)) = .ok (channel, registrationClass) :=
      (@interceptFormat_exact 0).decode_encode .buffered trivial
    simp [parts, decodeContents, hread, Except.map]
  | upgrade u =>
    have hread : Upgrade.format.decode .buffered (Upgrade.format.encode u) = .ok u :=
      (@Upgrade.exact 0).decode_encode .buffered (h _ List.mem_cons_self)
    simp [parts, decodeContents, hread, Except.map]

/-- The types of an extra that has been read have a spelling. -/
theorem isSpelled_of_decodeContents {contents : Json} {tag : Tag}
    (h : decodeContents contents tag = .ok extra) : ∀ t ∈ extra.types, t.IsSpelled := by
  cases tag with
  | element =>
    obtain ⟨site, -, rfl⟩ := exists_of_map h
    simp [types]
  | intercept =>
    obtain ⟨pair, -, rfl⟩ := exists_of_map h
    simp [types]
  | upgrade =>
    obtain ⟨u, hu, rfl⟩ := exists_of_map h
    simpa [types] using (@Upgrade.exact 0).valid_of_decode hu

/-- A tag is read from its word. -/
theorem Tag.decode_constant (source : Source) (tag : Tag) :
    Tag.decode source (.string tag.constant) = .ok tag := by
  cases tag <;> rfl

/-- Members other than the tag are set aside as they are. -/
theorem splitMembers_of_ne {source : Source} {members : List (String × Json)}
    (h : ∀ member ∈ members, member.1 ≠ tagKey ∧ member.2.readable = true) (tag : Option Tag) :
    splitMembers source members tag = .ok (tag, members) := by
  induction members with
  | nil => rfl
  | cons member members ih =>
    obtain ⟨⟨hkey, hvalue⟩, hmembers⟩ := List.forall_mem_cons.mp h
    simp [splitMembers, hkey, hvalue, ih hmembers, Except.map]

/-- What an extra is read from is read as the contents of one tag. -/
theorem exists_decodeContents_of_decode {source : Source} {value : Json}
    (h : decode source value = .ok extra) :
    ∃ contents tag, decodeContents contents tag = .ok extra := by
  cases value with
  | object members ending =>
    simp only [decode] at h
    split at h
    · cases h
    · split at h
      · cases h
      · split at h
        · cases h
        · exact ⟨_, _, h⟩
  | array items ending =>
    cases items with
    | nil => simp [decode] at h
    | cons first others =>
      simp only [decode] at h
      split at h
      · cases h
      next tag _ =>
        split at h
        · exact ⟨_, tag, h⟩
        · cases h
  | _ => simp [decode] at h

/-- An extra is kept if its type has a spelling. -/
theorem exact : Extra.format.Exact (depth + 2) fun extra => ∀ t ∈ extra.types, t.IsSpelled where
  writable {extra} h := by
    obtain ⟨members, hparts, -⟩ := parts_record extra
    have hcontents : Json.Writable (depth + 2) (.record members) := hparts ▸ writable_parts h
    have hmembers := hcontents.of_record
    simp only [format, hparts, withTag, Json.record]
    exact .record (List.forall_mem_cons.mpr ⟨.string _, hmembers⟩)
  decode_encode source {extra} h := by
    obtain ⟨members, hparts, hkeys⟩ := parts_record extra
    have hcontents : Json.Writable 2 (.record members) := hparts ▸ writable_parts h
    -- The tag is taken out first; all other members are set aside in their order.
    have hothers : ∀ member ∈ members, member.1 ≠ tagKey ∧ member.2.readable = true :=
      fun member hmember => ⟨hkeys member hmember, (hcontents.of_record member hmember).readable⟩
    have hsplit : splitMembers source ((tagKey, .string extra.parts.1.constant) :: members) none =
        .ok (some extra.parts.1, members) := by
      simp [splitMembers, Tag.decode_constant, splitMembers_of_ne hothers]
    have hread := decodeContents_parts h
    rw [hparts] at hread
    simp only [format, hparts, withTag, Json.record]
    simp [decode, hsplit, hread]
  valid_of_decode h := by
    obtain ⟨contents, tag, hcontents⟩ := exists_decodeContents_of_decode h
    exact isSpelled_of_decodeContents hcontents

end Extra

/-- The types that a request tells, in its call and in its extras. -/
def Request.types (r : Request) : List ErasedType := r.call.types ++ r.extras.flatMap Extra.types

/-- A request is kept if its types have a spelling. -/
theorem Request.exact : Request.format.Exact (depth + 4) fun r => ∀ t ∈ r.types, t.IsSpelled := by
  refine Fields.Exact.record
    (.cons (.required Call.exact) <|
      .cons (.required Binding.exact) <|
      .cons (.required Extra.exact.list) .nil)
    (by decide) (fun _ => rfl) (fun _ => rfl) fun r => ?_
  simp only [Request.types, List.mem_append, List.mem_flatMap]
  grind

end AccessorUpgrade
