import AccessorUpgrade.Proofs.Interception.Binding
import AccessorUpgrade.Proofs.Results

/-!
# Entries are read one by one

A directive with entries is read entry by entry, each as if there were no other
(`Reader.readMethod_withEntries`). The requests are those of the entries in their order, and the
first entry that is refused decides for all. What `Reader.entries_compose` says of groups of
entries, of their order and of faults among them follows from this by laws of results that are
computed one after the other; no part of its proof looks into the reading of an entry.
-/

namespace AccessorUpgrade

variable {r : Reader} {m : Method}

/-- The directive with other entries in place of its own. -/
def Directive.withEntries (directive : Directive) (entries : List AccessorEntry) : Directive :=
  { directive with entries }

namespace Reader

/-- What becomes of an entry that is the only one. -/
def readEntry (r : Reader) (m : Method) (entry : AccessorEntry) :
    Except Diagnostic (List Request) :=
  r.readMethod m (Directive.blank.withEntries [entry])

/-- The requests for an entry, if it is accepted. -/
def block (r : Reader) (m : Method) (entry : AccessorEntry) : List Request :=
  (r.readEntry m entry).toOption.getD []

/-- A method is refused whatever its directive is, or its directive decides. -/
theorem readMethod_cases (r : Reader) (m : Method) :
    (∃ d, ∀ directive, r.readMethod m directive = .error d) ∨
      ∃ p, ∀ directive, r.readMethod m directive =
        ((Accessor.ofDirective m directive r.fallbacks).map (·.flatMap (·.requests p m))).mapError
          (·.diagnostic m.site) := by
  unfold readMethod requests
  cases r.project with
  | none => exact .inl ⟨_, fun _ => rfl⟩
  | some p =>
    cases m.isSimpleGetter with
    | false => exact .inl ⟨_, fun _ => rfl⟩
    | true => exact .inr ⟨p, fun _ => rfl⟩

/-- Reading entries is reading each of them as if it were the only one. -/
theorem readMethod_withEntries (r : Reader) (m : Method) (directive : Directive)
    {entries : List AccessorEntry} (h : entries ≠ []) :
    r.readMethod m (directive.withEntries entries) =
      (entries.mapM (r.readEntry m)).map List.flatten := by
  obtain ⟨d, hrefused⟩ | ⟨p, hdecides⟩ := r.readMethod_cases m
  · obtain ⟨entry, others, rfl⟩ := List.exists_cons_of_ne_nil h
    rw [hrefused, List.mapM_cons, readEntry, hrefused]
    rfl
  · have hread (directive : Directive) {entries : List AccessorEntry} (h : entries ≠ []) :
        r.readMethod m (directive.withEntries entries) =
          ((entries.mapM (Accessor.ofEntry m r.fallbacks)).map
            (·.flatMap (·.requests p m))).mapError (·.diagnostic m.site) := by
      rw [hdecides, Accessor.ofDirective_of_entries m r.fallbacks h]
      rfl
    have hentry : r.readEntry m = fun entry =>
        ((Accessor.ofEntry m r.fallbacks entry).map (·.requests p m)).mapError
          (·.diagnostic m.site) := by
      funext entry
      rw [readEntry, hread _ (List.cons_ne_nil entry []), List.mapM_cons]
      cases Accessor.ofEntry m r.fallbacks entry with
      | error refusal => rfl
      | ok a => exact congrArg Except.ok (List.append_nil (a.requests p m))
    -- What is done with the accessors and with a refusal is done entry by entry.
    rw [hread directive h, hentry, mapM_mapError, mapM_map]
    cases entries.mapM (Accessor.ofEntry m r.fallbacks) with
    | error refusal => rfl
    | ok accessors => rfl

/-- An entry that is accepted has its block for requests. -/
theorem readEntry_eq_block {entry : AccessorEntry} {requests : List Request}
    (h : r.readEntry m entry = .ok requests) : r.readEntry m entry = .ok (r.block m entry) := by
  rw [block, h]
  rfl

/-- Two groups of entries are read one after the other. -/
theorem readMethod_withEntries_append (directive : Directive) {first second : List AccessorEntry}
    (hfirst : first ≠ []) (hsecond : second ≠ []) :
    r.readMethod m (directive.withEntries (first ++ second)) =
      match r.readMethod m (directive.withEntries first),
        r.readMethod m (directive.withEntries second) with
      | .error d, _ => .error d
      | .ok _, .error d => .error d
      | .ok xs, .ok ys => .ok (xs ++ ys) := by
  rw [r.readMethod_withEntries m directive hfirst, r.readMethod_withEntries m directive hsecond,
    r.readMethod_withEntries m directive (List.append_ne_nil_of_left_ne_nil hfirst second),
    List.mapM_append]
  cases first.mapM (r.readEntry m) with
  | error d => rfl
  | ok xs =>
    cases second.mapM (r.readEntry m) with
    | error d => rfl
    | ok ys => exact congrArg Except.ok List.flatten_append

/-- Entries are accepted when each of them is, and their requests are the blocks of the entries one
after the other. -/
theorem readMethod_withEntries_eq_ok_iff {directive : Directive} {entries : List AccessorEntry}
    (h : entries ≠ []) {requests : List Request} :
    r.readMethod m (directive.withEntries entries) = .ok requests ↔
      (∀ entry ∈ entries, r.readEntry m entry = .ok (r.block m entry)) ∧
        requests = entries.flatMap (r.block m) := by
  rw [r.readMethod_withEntries m directive h]
  constructor
  · intro hok
    obtain ⟨blocks, hblocks, rfl⟩ := exists_of_map hok
    have hentries : ∀ entry ∈ entries, r.readEntry m entry = .ok (r.block m entry) := by
      intro entry hentry
      obtain ⟨requests, -, hrequests⟩ := exists_result_of_mapM hblocks entry hentry
      exact readEntry_eq_block hrequests
    rw [mapM_eq_ok_map hentries] at hblocks
    exact ⟨hentries, by rw [← Except.ok.inj hblocks, List.flatMap_def]⟩
  · rintro ⟨hentries, rfl⟩
    rw [mapM_eq_ok_map hentries, List.flatMap_def]
    rfl

/-- An accepted entry has two requests if it declares a getter, and one if it declares a setter. -/
theorem length_of_readEntry {entry : AccessorEntry} {requests : List Request}
    (h : r.readEntry m entry = .ok requests) :
    (entry.value = some "GETTER" ∧ requests.length = 2) ∨
      (entry.value = some "SETTER" ∧ requests.length = 1) := by
  obtain ⟨p, accessors, -, -, haccessors, rfl⟩ := exists_of_requests (requests_of_readMethod h)
  rw [Accessor.ofDirective_of_entries m r.fallbacks (List.cons_ne_nil entry [])] at haccessors
  obtain ⟨a, others, ha, hothers, rfl⟩ := exists_of_mapM_cons haccessors
  obtain rfl : others = [] := (Except.ok.inj hothers).symm
  obtain ⟨-, hvalue, -, -⟩ := Accessor.ofEntry_eq_ok_iff.mp ha
  rw [hvalue, List.flatMap_singleton, Accessor.requests, List.length_map]
  cases a.kind with
  | getter => exact .inl ⟨rfl, rfl⟩
  | setter => exact .inr ⟨rfl, rfl⟩

/-- Entries compose, whatever else the directive says. Of two groups of entries the first is read
before the second: a diagnostic of the one counts before that of the other, and without any the
requests of the one come before those of the other. Each entry contributes the block that it has
alone: two requests for a getter, and one for a setter. So the same entries in another order have
the same blocks in that order, and one entry that is refused, in whatever place, is enough for there
to be no requests at all. -/
theorem entries_compose (r : Reader) (m : Method) (directive : Directive) :
    (∀ first second : List AccessorEntry, first ≠ [] → second ≠ [] →
      r.readMethod m (directive.withEntries (first ++ second)) =
        match r.readMethod m (directive.withEntries first),
          r.readMethod m (directive.withEntries second) with
        | .error d, _ => .error d
        | .ok _, .error d => .error d
        | .ok xs, .ok ys => .ok (xs ++ ys)) ∧
    (∀ entries requests, entries ≠ [] →
      (r.readMethod m (directive.withEntries entries) = .ok requests ↔
        (∀ entry ∈ entries, r.readEntry m entry = .ok (r.block m entry)) ∧
          requests = entries.flatMap (r.block m))) ∧
    (∀ entry requests, r.readEntry m entry = .ok requests →
      (entry.value = some "GETTER" ∧ requests.length = 2) ∨
        (entry.value = some "SETTER" ∧ requests.length = 1)) ∧
    (∀ entries others requests, entries ≠ [] → others.Perm entries →
      r.readMethod m (directive.withEntries entries) = .ok requests →
      r.readMethod m (directive.withEntries others) = .ok (others.flatMap (r.block m))) ∧
    ∀ before entry after d, r.readEntry m entry = .error d →
      ∃ d', r.readMethod m (directive.withEntries (before ++ entry :: after)) = .error d' := by
  refine ⟨fun first second => readMethod_withEntries_append directive,
    fun entries requests h => readMethod_withEntries_eq_ok_iff h,
    fun entry requests => length_of_readEntry, fun entries others requests h hperm hok => ?_,
    fun before entry after d hd => ?_⟩
  · have hothers : others ≠ [] := fun hnil => h (List.perm_nil.mp (hnil ▸ hperm.symm))
    obtain ⟨hentries, -⟩ := (readMethod_withEntries_eq_ok_iff h).mp hok
    refine (readMethod_withEntries_eq_ok_iff hothers).mpr ⟨fun entry hentry => ?_, rfl⟩
    exact hentries entry (hperm.mem_iff.mp hentry)
  · have hmem : entry ∈ before ++ entry :: after := by simp
    obtain ⟨d', hd'⟩ := exists_error_of_mapM hmem hd
    refine ⟨d', ?_⟩
    rw [r.readMethod_withEntries m directive (List.ne_nil_of_mem hmem), hd']
    rfl

/-- The entry of a former getter. -/
def getTitle : AccessorEntry := .named .getter "getTitle"

/-- The entry of a former setter. -/
def setTitle : AccessorEntry := .named .setter "setTitle"

/-- What becomes of the method with some entries. -/
def readTitle (entries : List AccessorEntry) : Except Diagnostic (List Request) :=
  coreReader.readMethod titleMethod (Directive.blank.withEntries entries)

/-- What an entry of the method contributes. -/
def titleBlock (entry : AccessorEntry) : List Request := coreReader.block titleMethod entry

/-- Swapping two entries swaps their blocks, and a third one that names no method leaves nothing of
either. -/
theorem entries_compose_swapped :
    readTitle [getTitle, setTitle] = .ok (titleBlock getTitle ++ titleBlock setTitle) ∧
      readTitle [setTitle, getTitle] = .ok (titleBlock setTitle ++ titleBlock getTitle) ∧
      (titleBlock getTitle).length = 2 ∧ (titleBlock setTitle).length = 1 ∧
      ∃ d, readTitle [getTitle, setTitle, .blank] = .error d := by
  obtain ⟨-, hblocks, hlength, hperm, hrefused⟩ := entries_compose coreReader titleMethod .blank
  have hget : coreReader.readEntry titleMethod getTitle = .ok (titleBlock getTitle) :=
    readEntry_eq_block rfl
  have hset : coreReader.readEntry titleMethod setTitle = .ok (titleBlock setTitle) :=
    readEntry_eq_block rfl
  have hok : readTitle [getTitle, setTitle] = .ok (titleBlock getTitle ++ titleBlock setTitle) := by
    refine (hblocks _ _ (List.cons_ne_nil _ _)).mpr ⟨?_, by simp [titleBlock]⟩
    simpa using ⟨hget, hset⟩
  have hswapped : readTitle [setTitle, getTitle] =
      .ok (titleBlock setTitle ++ titleBlock getTitle) := by
    have hflat := hperm _ [setTitle, getTitle] _ (List.cons_ne_nil _ _) (.swap _ _ _) hok
    rwa [List.flatMap_cons, List.flatMap_singleton] at hflat
  obtain ⟨-, htwo⟩ | ⟨hsetter, -⟩ := hlength _ _ hget
  · obtain ⟨hgetter, -⟩ | ⟨-, hone⟩ := hlength _ _ hset
    · exact absurd hgetter (by decide)
    · exact ⟨hok, hswapped, htwo, hone, hrefused [getTitle, setTitle] .blank [] _ rfl⟩
  · exact absurd hsetter (by decide)

end Reader
end AccessorUpgrade
