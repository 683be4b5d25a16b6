import AccessorUpgrade.CommandLine.Command
import AccessorUpgrade.Proofs.Text.Blank

/-!
# Where the command starts

Flags for settings are told by how they are written, with two hyphens before one of four names, and
perhaps an equals sign and a value after it; `Flag.awaitsValue?_eq_none_iff` and the lemmas before
it say so without a look at how arguments are taken apart. A command line starts with flags and
their values, and `Split.Flags` says which lists of arguments are that. `Split.ofLine_exact` shows
that a line is split after the longest start of this form. The arguments are taken one by one, in a
loop that carries those it has taken and whether a flag waits for its value, and so does the
induction (`Split.exists_takeFlags`).
-/

namespace AccessorUpgrade.CommandLine

/-! ## Flags as they are written -/

/-- What follows the long name of an option: an equals sign and the value, if there is one. -/
def valueText : Option String → List Char
  | none => []
  | some value => '=' :: value.toList

namespace Shape

variable {arg name : String} {value : Option String}

/-- A long name and its value are what follows the two hyphens. -/
theorem toList_of_eq_long (h : Shape.of arg = .long name value) :
    arg.toList = '-' :: '-' :: (name.toList ++ valueText value) := by
  unfold Shape.of at h
  split at h
  next => contradiction
  next rest _ hlist =>
    injection h with hname hvalue
    have hrest : rest = rest.takeWhile (· != '=') ++ rest.dropWhile (· != '=') :=
      List.takeWhile_append_dropWhile.symm
    rw [hlist, ← hname, String.toList_ofList]
    split at hvalue
    next hdrop => rw [← hvalue, valueText, ← hdrop, ← hrest]
    next c text hdrop =>
      have hc := List.head?_dropWhile_not (· != '=') rest
      rw [hdrop] at hc
      obtain rfl : c = '=' := by simpa using hc
      rw [← hvalue, valueText, String.toList_ofList, ← hdrop, ← hrest]
  next => contradiction
  next => contradiction

/-- Two hyphens, a long name and perhaps a value are read as that. -/
theorem of_eq_long (harg : arg.toList = '-' :: '-' :: (name.toList ++ valueText value))
    (hname : '=' ∉ name.toList) (hne : name ≠ "") : Shape.of arg = .long name value := by
  have hrun : ∀ c ∈ name.toList, (c != '=') = true := by
    intro c hc
    rw [bne_iff_ne]
    rintro rfl
    exact hname hc
  have hrest : ∀ c ∈ (valueText value).head?, (c != '=') = false := by
    cases value <;> simp [valueText]
  unfold Shape.of
  split
  next hlist =>
    -- There is a name, so the hyphens are not alone.
    obtain ⟨hempty, -⟩ : name = "" ∧ valueText value = [] := by simpa [harg] using hlist
    exact absurd hempty hne
  next rest _ hlist =>
    obtain rfl : rest = name.toList ++ valueText value := by simpa [harg, eq_comm] using hlist
    rw [Text.takeWhile_run hrun hrest, Text.dropWhile_run hrun hrest, String.ofList_toList]
    cases value with
    | none => rfl
    | some text => simp [valueText]
  next hfirst hlist =>
    rw [harg] at hlist
    exact (hfirst (List.cons.inj (List.cons.inj hlist).2).1.symm).elim
  next hother _ => exact (hother _ harg).elim

end Shape

namespace Flag

variable {arg : String}

/-- The flags for settings as they are written. -/
def names : List String := ["--config-path", "--project-name", "--log-filter", "--log-format"]

/-- The argument is a flag whose value is to follow. -/
def AwaitsValue (arg : String) : Prop := arg ∈ names

/-- The argument is a flag and, after an equals sign, its value. -/
def CarriesValue (arg : String) : Prop := ∃ name ∈ names, ∃ value, arg = name ++ "=" ++ value

/-- The argument is a flag, with its value or not. -/
def IsFlag (arg : String) : Prop := AwaitsValue arg ∨ CarriesValue arg

/-- Flags are written with two hyphens before their long names. -/
theorem mem_names_iff {s : String} : s ∈ names ↔ ∃ flag ∈ all, s = "--" ++ flag.long := by
  have hnames : names = all.map ("--" ++ ·.long) := by decide
  rw [hnames, List.mem_map]
  simp only [eq_comm]

/-- A flag has a name, and no equals sign in it. -/
theorem long_of_mem_all {flag : Flag} (h : flag ∈ all) :
    '=' ∉ flag.long.toList ∧ flag.long ≠ "" := by
  revert flag
  decide

/-- An argument is read as a flag when it is two hyphens, the name of a flag, and perhaps a value,
and it waits for a value when there is none. -/
theorem awaitsValue?_eq_some_iff {awaiting : Bool} :
    awaitsValue? arg = some awaiting ↔
      ∃ flag ∈ all, ∃ value : Option String, awaiting = value.isNone ∧
        arg.toList = '-' :: '-' :: (flag.long.toList ++ valueText value) := by
  unfold awaitsValue?
  constructor
  · intro h
    split at h
    next name value hshape =>
      split at h
      next hany =>
        obtain ⟨flag, hflag, hname⟩ := List.any_eq_true.mp hany
        refine ⟨flag, hflag, value, (Option.some.inj h).symm, ?_⟩
        rw [eq_of_beq hname]
        exact Shape.toList_of_eq_long hshape
      next => contradiction
    next => contradiction
  · rintro ⟨flag, hflag, value, rfl, harg⟩
    obtain ⟨hequals, hne⟩ := long_of_mem_all hflag
    rw [Shape.of_eq_long harg hequals hne]
    have hany : all.any (·.long == flag.long) = true :=
      List.any_eq_true.mpr ⟨flag, hflag, beq_self_eq_true flag.long⟩
    simp only [hany, if_true]

/-- A flag that is read as waiting for its value is a flag by itself. -/
theorem awaitsValue?_eq_true_iff : awaitsValue? arg = some true ↔ AwaitsValue arg := by
  rw [awaitsValue?_eq_some_iff, AwaitsValue, mem_names_iff]
  constructor
  · rintro ⟨flag, hflag, value, hvalue, harg⟩
    obtain rfl := Option.isNone_iff_eq_none.mp hvalue.symm
    refine ⟨flag, hflag, String.toList_inj.mp ?_⟩
    rw [harg, String.toList_append, valueText, List.append_nil]
    rfl
  · rintro ⟨flag, hflag, rfl⟩
    refine ⟨flag, hflag, none, rfl, ?_⟩
    rw [String.toList_append, valueText, List.append_nil]
    rfl

/-- A flag that is read as not waiting for its value carries the value. -/
theorem awaitsValue?_eq_false_iff : awaitsValue? arg = some false ↔ CarriesValue arg := by
  rw [awaitsValue?_eq_some_iff, CarriesValue]
  constructor
  · rintro ⟨flag, hflag, value, hvalue, harg⟩
    obtain ⟨text, rfl⟩ := Option.isSome_iff_exists.mp (by simpa using hvalue)
    refine ⟨_, mem_names_iff.mpr ⟨flag, hflag, rfl⟩, text, String.toList_inj.mp ?_⟩
    rw [harg]
    simp [valueText]
  · rintro ⟨name, hname, text, rfl⟩
    obtain ⟨flag, hflag, rfl⟩ := mem_names_iff.mp hname
    refine ⟨flag, hflag, some text, rfl, ?_⟩
    simp [valueText]

/-- What is not read as a flag is none. -/
theorem awaitsValue?_eq_none_iff : awaitsValue? arg = none ↔ ¬IsFlag arg := by
  rw [IsFlag, ← awaitsValue?_eq_true_iff, ← awaitsValue?_eq_false_iff]
  cases awaitsValue? arg with
  | none => simp
  | some awaiting => cases awaiting <;> simp

end Flag

/-! ## The leading flags of a command line -/

namespace Split

variable {α : Type} {text : α → String}

/-- Flags with their values, one after the other. The value of a flag may look like anything. The
Boolean says whether the last flag still waits for its value. -/
inductive Flags : List String → Bool → Prop where
  | nil : Flags [] false
  | carries {arg : String} {rest : List String} {waiting : Bool} (h : Flag.CarriesValue arg)
      (hrest : Flags rest waiting) : Flags (arg :: rest) waiting
  | awaits {flag : String} {rest : List String} {waiting : Bool} (h : Flag.AwaitsValue flag)
      (value : String) (hrest : Flags rest waiting) : Flags (flag :: value :: rest) waiting
  | dangling {flag : String} (h : Flag.AwaitsValue flag) : Flags [flag] true

/-- Nothing of the arguments belongs to the flags before them: if there are any, no flag waits for
its value, and the first argument is no flag. -/
def StartsCommand (waiting : Bool) (args : List String) : Prop :=
  ∀ arg rest, args = arg :: rest → waiting = false ∧ ¬Flag.IsFlag arg

/-- What the loop takes is the start of the arguments, and it comes after what has been taken
before. The arguments that it takes are flags with their values, and those that it leaves start a
command. If a flag stands before the arguments and waits for its value, it belongs to the flags. -/
theorem exists_takeFlags (text : α → String) (taken : List α) (awaiting : Bool) (args : List α) :
    ∃ flags rest waiting, args = flags ++ rest ∧
      takeFlags text taken awaiting args = taken ++ flags ∧
      (awaiting = false → Flags (flags.map text) waiting) ∧
      (awaiting = true → ∀ flag, Flag.AwaitsValue flag →
        Flags (flag :: flags.map text) waiting) ∧
      StartsCommand waiting (rest.map text) := by
  fun_induction takeFlags text taken awaiting args with
  | case1 taken awaiting =>
    refine ⟨[], [], awaiting, rfl, (List.append_nil taken).symm, ?_, ?_, nofun⟩
    · rintro rfl
      exact .nil
    · rintro rfl flag hflag
      exact .dangling hflag
  | case2 taken value rest ih =>
    obtain ⟨flags, others, waiting, rfl, htaken, hflags, -, hstart⟩ := ih
    refine ⟨value :: flags, others, waiting, rfl, ?_, nofun, fun _ flag hflag => ?_, hstart⟩
    · rw [htaken, List.append_assoc, List.singleton_append]
    · exact .awaits hflag (text value) (hflags rfl)
  | case3 taken arg rest awaiting hread ih =>
    obtain ⟨flags, others, waiting, rfl, htaken, hflags, hvalue, hstart⟩ := ih
    refine ⟨arg :: flags, others, waiting, rfl, ?_, fun _ => ?_, nofun, hstart⟩
    · rw [htaken, List.append_assoc, List.singleton_append]
    · cases awaiting with
      | false => exact .carries (Flag.awaitsValue?_eq_false_iff.mp hread) (hflags rfl)
      | true => exact hvalue rfl (text arg) (Flag.awaitsValue?_eq_true_iff.mp hread)
  | case4 taken arg rest hread =>
    refine ⟨[], arg :: rest, false, rfl, (List.append_nil taken).symm, fun _ => .nil, nofun, ?_⟩
    rintro _ _ ⟨⟩
    exact ⟨rfl, Flag.awaitsValue?_eq_none_iff.mp hread⟩

/-- Of arguments that start with flags at least these are taken. -/
theorem Flags.exists_takeFlags_eq {texts : List String} {waiting : Bool} (h : Flags texts waiting)
    {flags : List α} (hflags : flags.map text = texts) (taken rest : List α) :
    ∃ more, takeFlags text taken false (flags ++ rest) = taken ++ flags ++ more := by
  induction h generalizing flags taken with
  | nil =>
    obtain rfl := List.map_eq_nil_iff.mp hflags
    obtain ⟨more, -, -, -, htaken, -⟩ := exists_takeFlags text taken false rest
    exact ⟨more, by rw [List.append_nil, List.nil_append, htaken]⟩
  | carries h _ ih =>
    obtain ⟨arg, others, rfl, rfl, hothers⟩ := List.map_eq_cons_iff.mp hflags
    obtain ⟨more, htaken⟩ := ih hothers (taken ++ [arg])
    refine ⟨more, ?_⟩
    rw [List.cons_append, takeFlags, Flag.awaitsValue?_eq_false_iff.mpr h]
    simpa using htaken
  | awaits h value _ ih =>
    obtain ⟨arg, tail, rfl, rfl, htail⟩ := List.map_eq_cons_iff.mp hflags
    obtain ⟨value, others, rfl, rfl, hothers⟩ := List.map_eq_cons_iff.mp htail
    obtain ⟨more, htaken⟩ := ih hothers (taken ++ [arg] ++ [value])
    refine ⟨more, ?_⟩
    rw [List.cons_append, List.cons_append, takeFlags, Flag.awaitsValue?_eq_true_iff.mpr h]
    simpa [takeFlags] using htaken
  | dangling h =>
    obtain ⟨arg, tail, rfl, rfl, htail⟩ := List.map_eq_cons_iff.mp hflags
    obtain rfl := List.map_eq_nil_iff.mp htail
    -- The flag is taken, and what follows is its value.
    obtain ⟨more, -, -, -, htaken, -⟩ := exists_takeFlags text (taken ++ [arg]) true rest
    refine ⟨more, ?_⟩
    rw [List.singleton_append, takeFlags, Flag.awaitsValue?_eq_true_iff.mpr h]
    exact htaken

/-- Of arguments that start a command none is taken. -/
theorem StartsCommand.takeFlags_eq {waiting : Bool} {args : List α}
    (h : StartsCommand waiting (args.map text)) (taken : List α) :
    takeFlags text taken false args = taken := by
  cases args with
  | nil => rfl
  | cons arg rest =>
    have hread := Flag.awaitsValue?_eq_none_iff.mpr (h (text arg) (rest.map text) rfl).2
    rw [takeFlags, hread]

/-- A command line is split into two parts and put together from them without a loss. The first part
is the start of the line up to the place where the command starts. After the name of the program it
holds flags with their values, and of what follows in the second part nothing belongs to those
flags. So splitting the second part again finds no flags in it, and no more of the arguments could
be flags with their values. All this is said of what can be read of the arguments as text. -/
theorem ofLine_exact (text : α → String) (line : List α) :
    (ofLine text line).settings = line.take (commandStart text line) ∧
    (ofLine text line).settings.length = commandStart text line ∧
    (ofLine text line).settings ++ (ofLine text line).command.tail = line ∧
    (∀ program args, line = program :: args →
      (ofLine text line).command = program :: line.drop (commandStart text line) ∧
      ∃ flags waiting, (ofLine text line).settings = program :: flags ∧
        Flags (flags.map text) waiting ∧
        StartsCommand waiting ((line.drop (commandStart text line)).map text) ∧
        ∀ others waiting', others <+: args → Flags (others.map text) waiting' →
          others.length ≤ flags.length) ∧
    ofLine text (ofLine text line).command = ⟨line.take 1, (ofLine text line).command⟩ := by
  cases line with
  | nil => exact ⟨rfl, rfl, rfl, nofun, rfl⟩
  | cons program args =>
    obtain ⟨flags, rest, waiting, rfl, htaken, hflags, -, hstart⟩ :=
      exists_takeFlags text [program] false args
    have hsettings : (ofLine text (program :: (flags ++ rest))).settings = program :: flags :=
      htaken
    have hcount : commandStart text (program :: (flags ++ rest)) = flags.length + 1 :=
      congrArg List.length htaken
    have hdrop : (program :: (flags ++ rest)).drop (flags.length + 1) = rest := by simp
    have hcommand : (ofLine text (program :: (flags ++ rest))).command = program :: rest := by
      rw [ofLine, hcount, hdrop]
      rfl
    rw [hsettings, hcommand, hcount, hdrop]
    refine ⟨by simp, rfl, rfl, ?_, ?_⟩
    · rintro _ _ ⟨⟩
      refine ⟨rfl, flags, waiting, rfl, hflags rfl, hstart, ?_⟩
      rintro others _ ⟨tail, hothers⟩ hmore
      -- The loop takes the other flags too, so they are among those that it takes.
      obtain ⟨more, hall⟩ := hmore.exists_takeFlags_eq rfl [program] tail
      rw [hothers, htaken] at hall
      have hlength := congrArg List.length hall
      simp only [List.length_append, List.length_cons, List.length_nil] at hlength
      omega
    · have hnone : takeFlags text [program] false rest = [program] := hstart.takeFlags_eq [program]
      rw [ofLine, commandStart, leading, hnone]
      rfl

/-- The value of a flag may look like a flag, and so may arguments of the command. -/
example :
    ofLine id ["propshim", "--project-name", "--log-format", "--log-filter=", "-",
        "--log-format"] =
      ⟨["propshim", "--project-name", "--log-format", "--log-filter="],
        ["propshim", "-", "--log-format"]⟩ := by decide +kernel

end Split

end AccessorUpgrade.CommandLine
