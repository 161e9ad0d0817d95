import RoleGuard.CommandLine.Arguments
import RoleGuard.Proofs.Steps
import RoleGuard.Text.Pieces

/-! # Arguments Written in Full

    Options have several readings: they can be shortened, and what follows
    them may turn out to be an option itself. Written under their full names,
    with values that do not begin with a hyphen or that follow an equals
    sign, they mean what they say: the command receives exactly the values
    that were given, in their order.
-/

namespace RoleGuard.CommandLine

/-! ## Ways of writing -/

/-- How an option and its value are written. -/
inductive Spelling where
  /-- in one argument, with an equals sign -/
  | joined
  /-- in two arguments -/
  | apart
deriving DecidableEq, Repr

/-- The text does not begin with a hyphen. -/
def IsWord (s : String) : Prop :=
  s.toList.head? ≠ some '-'

instance (s : String) : Decidable (IsWord s) :=
  inferInstanceAs (Decidable (s.toList.head? ≠ some '-'))

/-- The value can be written that way. -/
def Spelling.Fits : Spelling → String → Prop
  | joined, _ => True
  | apart, v => IsWord v

instance : (spelling : Spelling) → (v : String) → Decidable (spelling.Fits v)
  | .joined, _ => inferInstanceAs (Decidable True)
  | .apart, v => inferInstanceAs (Decidable (IsWord v))

/-- An option with the value that it is given. -/
structure Given where
  /-- how it is written -/
  spelling : Spelling
  /-- the option -/
  option : OptionForm
  /-- its value -/
  value : String
deriving DecidableEq, Repr

namespace Given

/-- The arguments that give the option its value. -/
def arguments (g : Given) : List String :=
  match g.spelling with
  | .joined => [g.option.name ++ "=" ++ g.value]
  | .apart => [g.option.name, g.value]

/-- How these arguments should read. -/
def shapes (g : Given) : List (String × Shape) :=
  match g.spelling with
  | .joined =>
    [(g.option.name ++ "=" ++ g.value, .known (.value g.option) false (some g.value))]
  | .apart => [(g.option.name, .known (.value g.option) false none), (g.value, .word)]

end Given

/-! ## Names of options -/

/-- A name like those of the options: two hyphens, and no equals sign. -/
structure IsLong (name : String) : Prop where
  /-- it begins with two hyphens -/
  hyphens : ['-', '-'] <+: name.toList
  /-- and goes on -/
  ne_marker : name ≠ "--"
  /-- what stands behind an equals sign is a value -/
  plain : '=' ∉ name.toList

/-- The form has the option under its name. -/
structure Form.Takes (form : Form) (o : OptionForm) : Prop where
  /-- the name is a long one -/
  long : IsLong o.name
  /-- the name stands for the option -/
  lookup : form.names.lookup o.name = some (.value o)

/-- No name of the form begins with the name. -/
structure Form.Ignores (form : Form) (name : String) : Prop where
  /-- the name is a long one -/
  long : IsLong name
  /-- nor is it the beginning of a name -/
  foreign : ∀ n ∈ form.names, ¬ name.toList <+: n.1.toList

/-- No name of the form holds an equals sign. -/
def Form.Plain (form : Form) : Prop :=
  ∀ n ∈ form.names, '=' ∉ n.1.toList

/-- The form can tell its options apart. -/
structure Form.Clear (form : Form) : Prop where
  /-- values do not look like names -/
  plain : form.Plain
  /-- every option has a name of its own -/
  takes : ∀ o ∈ form.options, form.Takes o

variable {form : Form} {o : OptionForm} {name v : String}

theorem IsLong.head? (h : IsLong name) (tail : List Char) :
    (name.toList ++ tail).head? = some '-' := by
  obtain ⟨rest, hrest⟩ := h.hyphens
  rw [← hrest]
  rfl

theorem IsLong.length_ne_one (h : IsLong name) (tail : List Char) :
    (name.toList ++ tail).length ≠ 1 := by
  obtain ⟨rest, hrest⟩ := h.hyphens
  rw [← hrest]
  simp

theorem Form.Ignores.lookup (h : form.Ignores name) : form.names.lookup name = none := by
  rw [List.lookup_eq_none_iff]
  intro n hn
  rw [bne_iff_ne]
  rintro rfl
  exact h.foreign n hn (List.prefix_refl _)

theorem Form.Plain.lookup_joined (h : form.Plain) (name v : String) :
    form.names.lookup (name ++ "=" ++ v) = none := by
  rw [List.lookup_eq_none_iff]
  intro n hn
  rw [bne_iff_ne]
  intro heq
  apply h n hn
  rw [← heq]
  simp

/-! ## Reading one argument -/

theorem splitEquals_append {cs : List Char} (h : '=' ∉ cs) (ds : List Char) :
    splitEquals (cs ++ '=' :: ds) = (cs, some (String.ofList ds)) := by
  unfold splitEquals
  rw [Text.dropWhile_ne_append h, Text.takeWhile_ne_append h]

theorem splitEquals_of_notMem {cs : List Char} (h : '=' ∉ cs) : splitEquals cs = (cs, none) := by
  unfold splitEquals
  rw [Text.dropWhile_ne_of_notMem h]

theorem readOne_word (form : Form) (h : IsWord v) : readOne form v = .ok .word := by
  unfold readOne
  exact if_pos h

theorem toList_joined (name v : String) :
    (name ++ "=" ++ v).toList = name.toList ++ '=' :: v.toList := by
  simp

theorem readOne_name (h : form.Takes o) :
    readOne form o.name = .ok (.known (.value o) false none) := by
  have hhead : o.name.toList.head? = some '-' := by simpa using h.long.head? []
  unfold readOne
  simp only [hhead, ne_eq, not_true_eq_false, if_false, h.lookup]

theorem readOne_joined (hplain : form.Plain) (h : form.Takes o) (v : String) :
    readOne form (o.name ++ "=" ++ v) = .ok (.known (.value o) false (some v)) := by
  unfold readOne
  simp only [toList_joined, h.long.head?, h.long.length_ne_one, ne_eq, not_true_eq_false, if_false,
    hplain.lookup_joined, splitEquals_append h.long.plain, String.ofList_toList, h.lookup]

/-- An option of other forms can be read, whatever it is taken for. -/
theorem exists_readPartial (h : form.Ignores name) {argument : String} {tail : List Char}
    (htoList : argument.toList = name.toList ++ tail)
    (hsplit : (splitEquals argument.toList).1 = name.toList) :
    ∃ shape, readPartial form argument = .ok shape := by
  -- the argument shortens no name, so it cannot be ambiguous
  have hnone : candidates form argument.toList = [] := by
    obtain ⟨rest, hrest⟩ := h.long.hyphens
    have hhyphens : ['-', '-'].isPrefixOf argument.toList = true := by
      rw [List.isPrefixOf_iff_prefix, htoList, ← hrest]
      exact ⟨rest ++ tail, by simp⟩
    unfold candidates
    rw [if_pos hhyphens]
    simp only [hsplit, List.map_eq_nil_iff, List.filter_eq_nil_iff, List.isPrefixOf_iff_prefix]
    exact h.foreign
  unfold readPartial
  simp only [hnone]
  exact ⟨_, rfl⟩

theorem exists_readOne_name (h : form.Ignores name) : ∃ shape, readOne form name = .ok shape := by
  have hhead : name.toList.head? = some '-' := by simpa using h.long.head? []
  have hlength : name.toList.length ≠ 1 := by simpa using h.long.length_ne_one []
  have hsplit := splitEquals_of_notMem h.long.plain
  have hpartial := exists_readPartial h (List.append_nil _).symm (congrArg Prod.fst hsplit)
  unfold readOne
  simpa only [hhead, hlength, hsplit, h.lookup, ne_eq, not_true_eq_false, if_false] using hpartial

theorem exists_readOne_joined (hplain : form.Plain) (h : form.Ignores name) (v : String) :
    ∃ shape, readOne form (name ++ "=" ++ v) = .ok shape := by
  have hsplit := splitEquals_append h.long.plain v.toList
  have hpartial := exists_readPartial h (toList_joined name v)
    (by rw [toList_joined, hsplit])
  unfold readOne
  simpa only [toList_joined, h.long.head?, h.long.length_ne_one, ne_eq, not_true_eq_false, if_false,
    hplain.lookup_joined, hsplit, String.ofList_toList, h.lookup] using hpartial

/-! ## Reading all arguments -/

/-- The form has the option, and it is given a value that it can have. -/
structure Form.Accepts (form : Form) (g : Given) : Prop where
  /-- the option is one of the form -/
  option : g.option ∈ form.options
  /-- the value does not look like an option -/
  fits : g.spelling.Fits g.value
  /-- the value is one to choose from, if there are any -/
  allowed : g.option.choices = [] ∨ g.value ∈ g.option.choices

/-- What should be read of options that are given. -/
def filledBy (givens : List Given) : Filled where
  given := givens.map fun g => (g.option.name, g.value)

variable {g : Given} {givens : List Given}

theorem all_filledBy (givens : List Given) (name : String) :
    (filledBy givens).all name
      = (givens.filter fun g => g.option.name == name).map Given.value := by
  unfold Filled.all filledBy
  rw [List.filter_map, List.map_map]
  rfl

theorem readAll_cons (hmarker : v ≠ "--") {shape : Shape} (hone : readOne form v = .ok shape)
    (rest : List String) :
    readAll form (v :: rest) = (readAll form rest).map ((v, shape) :: ·) := by
  rw [readAll, if_neg hmarker, hone]
  cases readAll form rest <;> rfl

theorem IsWord.ne_marker (h : IsWord v) : v ≠ "--" := by
  rintro rfl
  exact h rfl

theorem joined_ne_marker (name v : String) : name ++ "=" ++ v ≠ "--" := by
  intro heq
  have hmem : '=' ∈ (name ++ "=" ++ v).toList := by simp
  rw [heq] at hmem
  exact absurd hmem (by decide)

theorem readAll_given (hclear : form.Clear) (hg : form.Accepts g) (rest : List String) :
    readAll form (g.arguments ++ rest) = (readAll form rest).map (g.shapes ++ ·) := by
  have htakes := hclear.takes _ hg.option
  obtain ⟨spelling, o, v⟩ := g
  cases spelling with
  | joined => exact readAll_cons (joined_ne_marker _ _) (readOne_joined hclear.plain htakes v) rest
  | apart =>
    have hv : IsWord v := hg.fits
    have hvalue := readAll_cons hv.ne_marker (readOne_word form hv) rest
    have hname := readAll_cons htakes.long.ne_marker (readOne_name htakes) (v :: rest)
    rw [hvalue] at hname
    refine hname.trans ?_
    cases readAll form rest <;> rfl

theorem readAll_givens (hclear : form.Clear) (h : ∀ g ∈ givens, form.Accepts g) :
    readAll form (givens.flatMap Given.arguments) = .ok (givens.flatMap Given.shapes) := by
  induction givens with
  | nil => rfl
  | cons g givens ih =>
    obtain ⟨hg, hrest⟩ := List.forall_mem_cons.mp h
    rw [List.flatMap_cons, readAll_given hclear hg, ih hrest]
    rfl

/-- Arguments that can be read one by one can be read. -/
theorem exists_readAll {as : List String} (h : ∀ a ∈ as, ∃ shape, readOne form a = .ok shape) :
    ∃ shapes, readAll form as = .ok shapes ∧ shapes.map (·.1) = as := by
  induction as with
  | nil => exact ⟨[], rfl, rfl⟩
  | cons a as ih =>
    obtain ⟨⟨shape, hone⟩, hrest⟩ := List.forall_mem_cons.mp h
    by_cases hmarker : a = "--"
    · -- behind the marker nothing is looked at
      refine ⟨(a, .marker) :: as.map fun b => (b, .word), ?_, ?_⟩
      · rw [readAll, if_pos hmarker]
      · rw [List.map_cons, List.map_map]
        exact congrArg (a :: ·) (List.map_id as)
    · obtain ⟨shapes, hshapes, harguments⟩ := ih hrest
      refine ⟨(a, shape) :: shapes, ?_, ?_⟩
      · rw [readAll_cons hmarker hone, hshapes]
        rfl
      · rw [List.map_cons, harguments]

/-! ## Reading options -/

theorem put_allowed (f : Filled) (h : o.choices = [] ∨ v ∈ o.choices) :
    f.put o v = .ok { f with given := f.given ++ [(o.name, v)] } := by
  unfold Filled.put
  rw [if_pos]
  rcases h with hnil | hmem
  · rw [hnil]
    rfl
  · rw [List.contains_iff_mem.mpr hmem, Bool.or_true]

theorem fill_given (form : Form) (f : Filled)
    (h : g.option.choices = [] ∨ g.value ∈ g.option.choices) (rest : List (String × Shape)) :
    fill form false f (g.shapes ++ rest)
      = fill form false { f with given := f.given ++ [(g.option.name, g.value)] } rest := by
  obtain ⟨spelling, o, v⟩ := g
  cases spelling with
  | joined =>
    show fill form false f ((_, .known (.value o) false (some v)) :: rest) = _
    rw [fill, put_allowed f h]
  | apart =>
    show fill form false f ((_, .known (.value o) false none) :: (v, .word) :: rest) = _
    rw [fill, put_allowed f h]

theorem fill_givens (form : Form) (f : Filled) (h : ∀ g ∈ givens, form.Accepts g) :
    fill form false f (givens.flatMap Given.shapes)
      = .ok ({ f with given := f.given ++ (filledBy givens).given }, none) := by
  induction givens generalizing f with
  | nil => simp [fill, filledBy]
  | cons g givens ih =>
    obtain ⟨hg, hrest⟩ := List.forall_mem_cons.mp h
    rw [List.flatMap_cons, fill_given form f hg.allowed, ih _ hrest]
    simp [filledBy]

/-- **A form reads what was given**, in order. -/
theorem Form.read_givens (hclear : form.Clear) (h : ∀ g ∈ givens, form.Accepts g) :
    form.read false (givens.flatMap Given.arguments) = .ok (filledBy givens, none) := by
  unfold Form.read
  rw [readAll_givens hclear h]
  exact (fill_givens form {} h).trans (by simp [filledBy])

/-! ## Commands -/

instance (name : String) : Decidable (IsLong name) :=
  decidable_of_iff (['-', '-'] <+: name.toList ∧ name ≠ "--" ∧ '=' ∉ name.toList)
    ⟨fun ⟨h, h', h''⟩ => ⟨h, h', h''⟩, fun ⟨h, h', h''⟩ => ⟨h, h', h''⟩⟩

instance (form : Form) (o : OptionForm) : Decidable (form.Takes o) :=
  decidable_of_iff (IsLong o.name ∧ form.names.lookup o.name = some (.value o))
    ⟨fun ⟨h, h'⟩ => ⟨h, h'⟩, fun ⟨h, h'⟩ => ⟨h, h'⟩⟩

instance (form : Form) (name : String) : Decidable (form.Ignores name) :=
  decidable_of_iff (IsLong name ∧ ∀ n ∈ form.names, ¬ name.toList <+: n.1.toList)
    ⟨fun ⟨h, h'⟩ => ⟨h, h'⟩, fun ⟨h, h'⟩ => ⟨h, h'⟩⟩

instance (form : Form) : Decidable form.Plain :=
  inferInstanceAs (Decidable (∀ n ∈ form.names, '=' ∉ n.1.toList))

instance (form : Form) : Decidable form.Clear :=
  decidable_of_iff (form.Plain ∧ ∀ o ∈ form.options, form.Takes o)
    ⟨fun ⟨h, h'⟩ => ⟨h, h'⟩, fun ⟨h, h'⟩ => ⟨h, h'⟩⟩

/-- The commands have clear forms, and the program leaves their options to them. -/
theorem forms_of_commands : programForm.Plain ∧ ∀ c ∈ commands, IsWord c.1 ∧ c.2.1.Clear
    ∧ ∀ o ∈ c.2.1.options, programForm.Ignores o.name := by
  decide

/-- What the program reads before the word for a command and behind it. -/
theorem programForm_read {word : String} (hword : IsWord word)
    (h : ∀ g ∈ givens, g.spelling.Fits g.value ∧ programForm.Ignores g.option.name) :
    programForm.read true (word :: givens.flatMap Given.arguments)
      = .ok ({}, some (word, givens.flatMap Given.arguments)) := by
  have hone : ∀ a ∈ givens.flatMap Given.arguments, ∃ shape, readOne programForm a = .ok shape := by
    intro a ha
    obtain ⟨g, hg, ha⟩ := List.mem_flatMap.mp ha
    obtain ⟨hfits, hignores⟩ := h g hg
    obtain ⟨spelling, o, v⟩ := g
    cases spelling with
    | joined =>
      obtain rfl := List.mem_singleton.mp ha
      exact exists_readOne_joined forms_of_commands.1 hignores v
    | apart =>
      rcases List.mem_pair.mp ha with rfl | rfl
      · exact exists_readOne_name hignores
      · exact ⟨_, readOne_word _ hfits⟩
  obtain ⟨shapes, hshapes, harguments⟩ := exists_readAll hone
  unfold Form.read
  rw [readAll_cons hword.ne_marker (readOne_word _ hword), hshapes]
  show fill programForm true {} ((word, .word) :: shapes) = _
  rw [fill, if_pos rfl, harguments]

/-- **A command receives what was given**: its options written in full, with
    values that it accepts, are read as these values in their order. -/
theorem read_givens {word : String} {command : Filled → Command}
    (hlookup : commands.lookup word = some (form, command))
    (h : ∀ g ∈ givens, form.Accepts g) (habsent : form.absent (filledBy givens) = []) :
    read (word :: givens.flatMap Given.arguments) = .ok {
      logLevel := none
      operatorRole := (filledBy givens).last? operatorRoleOption.name
      manifestDir := (filledBy givens).last? manifestDirOption.name
      command := command (filledBy givens) } := by
  have hcommand : (word, form, command) ∈ commands := by
    obtain ⟨before, after, hsplit, _⟩ := List.lookup_eq_some_iff.mp hlookup
    rw [hsplit]
    exact List.mem_append_right before List.mem_cons_self
  obtain ⟨hword, hclear, hignores⟩ := forms_of_commands.2 _ hcommand
  have hprogram := programForm_read hword
    fun g hg => ⟨(h g hg).fits, hignores _ (h g hg).option⟩
  unfold read readCommand
  rw [hprogram]
  simp only [bind, Except.bind, hlookup, form.read_givens hclear h, habsent]
  rfl

end RoleGuard.CommandLine
