import Mathlib.Data.List.TakeWhile
import Mathlib.Tactic.MkIffOfInductiveProp
import Tutor.CommandLine.Options
import Tutor.Proofs.Server.Arguments

/-!
Which arguments of a command line are well formed.

`Spells` says which items a list of arguments spells, and `Options.Adds` which options a list of
items amounts to; neither speaks of a reader that looks at one argument after another and stops at
the first fault. Arguments that are well formed are those that the reader accepts
(`Options.read_eq_ok_iff`), and where nobody asks for help, the version or the server, it finds
fault with all others (`Options.read_of_interactive`).
-/

namespace Tutor

/-! ## Items -/

/-- An option that has a value. -/
inductive ValueOption
  | python
  | config
  deriving DecidableEq, Repr

/-- The name of an option. -/
def ValueOption.name : ValueOption → String
  | python => "python"
  | config => "config"

/-- What one argument says, or an option together with its value. -/
inductive Item
  | file (name : String)
  | value (option : ValueOption) (text : String)
  | serve
  deriving DecidableEq, Repr

namespace Item

/-- The name, if the item is a file. -/
def file? : Item → Option String
  | file name => some name
  | _ => none

/-- The value, if the item is an option for the interpreter. -/
def python? : Item → Option String
  | value .python text => some text
  | _ => none

/-- The value, if the item is an option for the configuration. -/
def config? : Item → Option String
  | value .config text => some text
  | _ => none

/-- Arguments that begin with an item, and the arguments behind it. -/
inductive Starts : Item → List String → List String → Prop
  | file {name : String} {rest : List String} :
    Options.isDashed name = false → Starts (.file name) (name :: rest) rest
  | serve {rest : List String} : Starts .serve ("--serve" :: rest) rest
  /-- The value behind an equals sign may be any text. -/
  | joined {option : ValueOption} {text : String} {rest : List String} :
    Starts (.value option text) (("--" ++ option.name ++ "=" ++ text) :: rest) rest
  | apart {option : ValueOption} {text : String} {rest : List String} :
    Options.isDashed text = false →
    Starts (.value option text) (("--" ++ option.name) :: text :: rest) rest

theorem Starts.length_lt {item : Item} {arguments rest : List String}
    (starts : item.Starts arguments rest) : rest.length < arguments.length := by
  cases starts with
  | file plain => exact Nat.lt_succ_self _
  | serve => exact Nat.lt_succ_self _
  | joined => exact Nat.lt_succ_self _
  | apart plain => exact Nat.lt_add_of_pos_right Nat.zero_lt_two

/-- The items that arguments spell. Behind two dashes there are only files. -/
inductive Spells : List String → List Item → Prop
  | nil : Spells [] []
  | cons {arguments rest : List String} {item : Item} {items : List Item} :
    Starts item arguments rest → Spells rest items → Spells arguments (item :: items)
  | files {names : List String} : Spells ("--" :: names) (names.map .file)

end Item

namespace Options

/-- What the options are when items are added: each is given at most once, and no file has an empty
name. -/
@[mk_iff]
structure Adds (start : Options) (items : List Item) (options : Options) : Prop where
  file : start.file.toList ++ items.filterMap Item.file? = options.file.toList
  python : start.python.toList ++ items.filterMap Item.python? = options.python.toList
  config : start.config.toList ++ items.filterMap Item.config? = options.config.toList
  serve : start.serve.toNat + items.count .serve = options.serve.toNat
  named : "" ∉ items.filterMap Item.file? ++ items.filterMap Item.config?

/-- Arguments that spell items, and the options that these amount to. -/
def WellFormed (arguments : List String) (options : Options) : Prop :=
  ∃ items, Item.Spells arguments items ∧ initial.Adds items options

/-! ## Adding items -/

/-- Adds an item to the options. -/
def add (options : Options) : Item → Except OptionsEnd Options
  | .file name => options.withFile name
  | .value option text => options.withValue option.name text
  | .serve => options.withFlag "serve"

variable {start options : Options} {items : List Item}

theorem toList_inj {given last : Option String} : given.toList = last.toList ↔ given = last := by
  cases given <;> cases last <;> simp

/-- What is given at most once was not given before. -/
theorem toList_append_cons_iff {given last : Option String} {text : String} {later : List String} :
    given.toList ++ text :: later = last.toList ↔
      given = none ∧ (some text).toList ++ later = last.toList := by
  cases given with
  | none => simp
  | some first => cases last <;> simp

theorem adds_nil : start.Adds [] options ↔ options = start := by
  rcases start with ⟨file, serve, python, config⟩
  rcases options with ⟨file', serve', python', config'⟩
  simp only [adds_iff, List.filterMap_nil, List.append_nil, toList_inj, List.count_nil]
  cases serve <;> cases serve' <;> simp <;> grind

theorem adds_file {name : String} :
    start.Adds (.file name :: items) options ↔
      start.file = none ∧ name ≠ "" ∧ { start with file := name }.Adds items options := by
  simp only [adds_iff, List.filterMap_cons, Item.file?, Item.python?, Item.config?,
    toList_append_cons_iff, List.count_cons]
  grind

theorem adds_python {line : String} :
    start.Adds (.value .python line :: items) options ↔
      start.python = none ∧ { start with python := line }.Adds items options := by
  simp only [adds_iff, List.filterMap_cons, Item.file?, Item.python?, Item.config?,
    toList_append_cons_iff, List.count_cons]
  grind

theorem adds_config {name : String} :
    start.Adds (.value .config name :: items) options ↔
      start.config = none ∧ name ≠ "" ∧ { start with config := name }.Adds items options := by
  simp only [adds_iff, List.filterMap_cons, Item.file?, Item.python?, Item.config?,
    toList_append_cons_iff, List.count_cons]
  grind

theorem adds_serve :
    start.Adds (.serve :: items) options ↔
      start.serve = false ∧ { start with serve := true }.Adds items options := by
  simp only [adds_iff, List.filterMap_cons, Item.file?, Item.python?, Item.config?,
    List.count_cons]
  cases start.serve <;> cases options.serve <;> simp

theorem guard_eq_ok_iff {allowed : Prop} [Decidable allowed] {stop : OptionsEnd} {next : Options} :
    (if allowed then .ok options else .error stop) = Except.ok next ↔ allowed ∧ next = options := by
  by_cases allowed : allowed <;> simp [allowed, eq_comm]

theorem withFile_eq_ok_iff {name : String} :
    start.withFile name = .ok options ↔
      (start.file = none ∧ name ≠ "") ∧ options = { start with file := name } := by
  rw [withFile, ← ite_not, guard_eq_ok_iff]
  simp

theorem withPython_eq_ok_iff {line : String} :
    start.withValue "python" line = .ok options ↔
      start.python = none ∧ options = { start with python := line } := by
  simp [withValue, guard_eq_ok_iff]

theorem withConfig_eq_ok_iff {name : String} :
    start.withValue "config" name = .ok options ↔
      (start.config = none ∧ name ≠ "") ∧ options = { start with config := name } := by
  simp [withValue, guard_eq_ok_iff]

theorem withServe_eq_ok_iff :
    start.withFlag "serve" = .ok options ↔
      start.serve = false ∧ options = { start with serve := true } := by
  simp [withFlag, guard_eq_ok_iff]

/-- An item is added alone, and then the others. -/
theorem adds_cons {item : Item} :
    start.Adds (item :: items) options ↔
      ∃ next, start.add item = .ok next ∧ next.Adds items options := by
  cases item with
  | file name =>
    simp only [add, withFile_eq_ok_iff, and_assoc, exists_and_left, exists_eq_left, adds_file]
  | value option text =>
    cases option with
    | python =>
      simp only [add, ValueOption.name, withPython_eq_ok_iff, and_assoc, exists_and_left,
        exists_eq_left, adds_python]
    | config =>
      simp only [add, ValueOption.name, withConfig_eq_ok_iff, and_assoc, exists_and_left,
        exists_eq_left, adds_config]
  | serve =>
    simp only [add, withServe_eq_ok_iff, and_assoc, exists_and_left, exists_eq_left, adds_serve]

theorem foldlM_add_eq_ok_iff :
    items.foldlM add start = .ok options ↔ start.Adds items options := by
  induction items generalizing start with
  | nil =>
    rw [List.foldlM_nil, adds_nil, eq_comm (a := options)]
    exact ⟨Except.ok.inj, congrArg Except.ok⟩
  | cons item items ih => simp only [List.foldlM_cons, bind_ok_iff, ih, adds_cons]

/-! ## The shape of an argument -/

theorem toList_dashes (name : String) : ("--" ++ name).toList = '-' :: '-' :: name.toList := by
  rw [String.toList_append]
  rfl

theorem toList_joined (name value : String) :
    ("--" ++ name ++ "=" ++ value).toList = '-' :: '-' :: (name.toList ++ '=' :: value.toList) := by
  rw [String.toList_append, String.toList_append, toList_dashes]
  simp

theorem ne_equals_of_clean {name : List Char} (clean : '=' ∉ name) :
    ∀ c ∈ name, (c != '=') = true := fun _ member =>
  bne_iff_ne.mpr fun same => clean (same ▸ member)

theorem splitOption_joined {name : String} (clean : '=' ∉ name.toList) (value : String) :
    splitOption (name.toList ++ '=' :: value.toList) = (name, some value) := by
  have pass := ne_equals_of_clean clean
  rw [splitOption, List.takeWhile_append_of_pos pass, List.dropWhile_append_of_pos pass]
  simp

theorem splitOption_name {name : String} (clean : '=' ∉ name.toList) :
    splitOption name.toList = (name, none) := by
  have pass := ne_equals_of_clean clean
  rw [splitOption, List.takeWhile_eq_self_iff.mpr pass, List.dropWhile_eq_nil_iff.mpr pass,
    String.ofList_toList]

variable {argument : String} {text : List Char}

theorem readFrom_plain (plain : isDashed argument = false) (options : Options)
    (rest : List String) :
    readFrom options (argument :: rest) =
      options.withFile argument >>= fun next => readFrom next rest := by
  rw [isDashed] at plain
  rw [readFrom]
  -- Each shape with a dash at its front would be dashed.
  split
  · rename_i shape
    rw [shape] at plain
    cases plain
  · rename_i named shape
    rw [shape] at plain
    split at plain
    · cases plain
    · rename_i short
      rcases List.exists_cons_of_ne_nil named with ⟨c, text, rfl⟩
      exact absurd rfl (short '-' (c :: text))
  · rename_i shape
    rw [shape] at plain
    cases plain
  · rfl

/-- An option with its value behind an equals sign. -/
theorem readFrom_joined {name value : String} (dashes : argument.toList = '-' :: '-' :: text)
    (split : splitOption text = (name, some value)) (options : Options) (rest : List String) :
    readFrom options (argument :: rest) =
      options.withValue name value >>= fun next => readFrom next rest := by
  have named : text ≠ [] := by
    intro empty
    rw [empty] at split
    cases split
  simp only [readFrom, dashes, split]

theorem readFrom_apart {name : String} (dashes : argument.toList = '-' :: '-' :: text)
    (named : text ≠ []) (split : splitOption text = (name, none)) (needs : needsValue name = true)
    (options : Options) (value : String) (rest : List String) :
    readFrom options (argument :: value :: rest) =
      if isDashed value then .error .misuse
      else options.withValue name value >>= fun next => readFrom next rest := by
  simp only [readFrom, dashes, split, needs, if_true]

theorem readFrom_valueless {name : String} (dashes : argument.toList = '-' :: '-' :: text)
    (named : text ≠ []) (split : splitOption text = (name, none)) (needs : needsValue name = true)
    (options : Options) :
    readFrom options [argument] = .error .misuse := by
  simp only [readFrom, dashes, split, needs, if_true]

theorem readFrom_flag {name : String} (dashes : argument.toList = '-' :: '-' :: text)
    (named : text ≠ []) (split : splitOption text = (name, none)) (flag : needsValue name = false)
    (options : Options) (rest : List String) :
    readFrom options (argument :: rest) =
      options.withFlag name >>= fun next => readFrom next rest := by
  simp only [readFrom, dashes, split, flag]
  rfl

theorem readFrom_letter {letter : Char} {letters : List Char}
    (dash : argument.toList = '-' :: letter :: letters) (single : letter ≠ '-')
    (options : Options) (rest : List String) :
    readFrom options (argument :: rest) =
      if letter = 'h' then .error .help
      else if letter = 'V' then .error .version
      else .error .misuse := by
  have noOption : ∀ text, letter :: letters ≠ '-' :: text := by
    intro text same
    exact single (List.cons.inj same).1
  simp only [readFrom, dash]
  split
  · rename_i same
    exact absurd (List.cons.inj same).2 (noOption _)
  · rename_i same
    exact absurd (List.cons.inj same).2 (noOption _)
  · rename_i same
    cases same
    rfl
  · rename_i other
    exact absurd rfl (other letter letters)

/-! ## One item at a time -/

theorem needsValue_iff {name : String} :
    needsValue name = true ↔ ∃ option : ValueOption, name = option.name := by
  rw [needsValue, Bool.or_eq_true, beq_iff_eq, beq_iff_eq]
  constructor
  · intro known
    rcases known with python | config
    · exact ⟨.python, python⟩
    · exact ⟨.config, config⟩
  · intro ⟨option, same⟩
    cases option with
    | python => exact .inl same
    | config => exact .inr same

theorem withValue_of_unknown {name : String} (unknown : needsValue name = false)
    (options : Options) (value : String) : options.withValue name value = .error .misuse := by
  rw [needsValue, Bool.or_eq_false_iff, beq_eq_false_iff_ne, beq_eq_false_iff_ne] at unknown
  simp [withValue, unknown]

theorem clean_name (option : ValueOption) : '=' ∉ option.name.toList := by
  cases option <;> decide

/-- The reader adds the item that comes first, and goes on behind it. -/
theorem readFrom_of_starts {arguments rest : List String} {item : Item}
    (starts : item.Starts arguments rest) (options : Options) :
    readFrom options arguments = options.add item >>= fun next => readFrom next rest := by
  cases starts with
  | file plain => exact readFrom_plain plain options rest
  | serve =>
    exact readFrom_flag (toList_dashes "serve") (by decide) (splitOption_name (by decide))
      (by decide) options rest
  | @joined option text rest =>
    exact readFrom_joined (toList_joined option.name text)
      (splitOption_joined (clean_name option) text) options rest
  | @apart option text rest plain =>
    have named : option.name.toList ≠ [] := by
      cases option <;> decide
    rw [readFrom_apart (toList_dashes option.name) named (splitOption_name (clean_name option))
      (needsValue_iff.mpr ⟨option, rfl⟩), plain]
    rfl

/-- An argument that asks for something else than to explain and run a program. -/
def AsksOtherwise (argument : String) : Prop :=
  argument ∈ ["--serve", "--help", "--version"] ∨
    ['-', 'h'] <+: argument.toList ∨ ['-', 'V'] <+: argument.toList

instance (argument : String) : Decidable (AsksOtherwise argument) :=
  inferInstanceAs (Decidable (_ ∨ _ ∨ _))

/-- What the reader makes of the first argument, whatever the options are. -/
inductive Opens (argument : String) (rest : List String) : Prop
  | item {item : Item} {others : List String} :
    item.Starts (argument :: rest) others → Opens argument rest
  | dashes : argument = "--" → Opens argument rest
  /-- It stops there, and where it does not find fault, the argument asks for something else. -/
  | stops (stop : OptionsEnd) :
    (∀ options, readFrom options (argument :: rest) = .error stop) →
    (stop = .misuse ∨ AsksOtherwise argument) → Opens argument rest

section Named

variable {name : String} (clean : '=' ∉ name.toList)

include clean

theorem Opens.of_joined (value : String) (rest : List String) :
    Opens ("--" ++ name ++ "=" ++ value) rest := by
  cases needs : needsValue name with
  | true =>
    obtain ⟨option, same⟩ := needsValue_iff.mp needs
    rw [same]
    exact .item .joined
  | false =>
    refine .stops .misuse (fun options => ?_) (.inl rfl)
    rw [readFrom_joined (toList_joined name value) (splitOption_joined clean value),
      withValue_of_unknown needs]
    rfl

variable (named : name.toList ≠ [])

include named

theorem Opens.of_apart (needs : needsValue name = true) (rest : List String) :
    Opens ("--" ++ name) rest := by
  have split := splitOption_name clean
  cases rest with
  | nil =>
    exact .stops .misuse (readFrom_valueless (toList_dashes name) named split needs) (.inl rfl)
  | cons value rest =>
    cases plain : isDashed value with
    | true =>
      refine .stops .misuse (fun options => ?_) (.inl rfl)
      rw [readFrom_apart (toList_dashes name) named split needs, plain]
      rfl
    | false =>
      obtain ⟨option, same⟩ := needsValue_iff.mp needs
      rw [same]
      exact .item (.apart plain)

theorem Opens.of_flag (flag : needsValue name = false) (rest : List String) :
    Opens ("--" ++ name) rest := by
  have reads := readFrom_flag (toList_dashes name) named (splitOption_name clean) flag
  by_cases serve : name = "serve"
  · rw [serve]
    exact .item .serve
  · by_cases help : name = "help"
    · rw [help] at reads ⊢
      exact .stops .help (fun options => reads options rest) (.inr (by decide))
    · by_cases version : name = "version"
      · rw [version] at reads ⊢
        exact .stops .version (fun options => reads options rest) (.inr (by decide))
      · refine .stops .misuse (fun options => ?_) (.inl rfl)
        have unknown : options.withFlag name = .error .misuse := by
          simp [withFlag, serve, help, version]
        rw [reads, unknown]
        rfl

end Named

theorem Opens.of_letter {letter : Char} {letters : List Char}
    (dash : argument.toList = '-' :: letter :: letters) (single : letter ≠ '-')
    (rest : List String) : Opens argument rest := by
  have reads := readFrom_letter dash single
  by_cases help : letter = 'h'
  · refine .stops .help (fun options => (reads options rest).trans (if_pos help))
      (.inr (.inr (.inl ?_)))
    rw [dash, help]
    exact ⟨letters, rfl⟩
  · by_cases version : letter = 'V'
    · refine .stops .version (fun options => (reads options rest).trans ?_) (.inr (.inr (.inr ?_)))
      · rw [if_neg help, if_pos version]
      · rw [dash, version]
        exact ⟨letters, rfl⟩
    · refine .stops .misuse (fun options => (reads options rest).trans ?_) (.inl rfl)
      rw [if_neg help, if_neg version]

theorem exists_of_isDashed (dashed : isDashed argument = true) :
    ∃ letter letters, argument.toList = '-' :: letter :: letters := by
  rw [isDashed] at dashed
  split at dashed
  · rename_i letter letters dash
    exact ⟨letter, letters, dash⟩
  · cases dashed

/-- Arguments begin with an item, or with two dashes, or the reader stops. -/
theorem opens (argument : String) (rest : List String) : Opens argument rest := by
  cases dashed : isDashed argument with
  | false => exact .item (.file dashed)
  | true =>
    obtain ⟨letter, letters, dash⟩ := exists_of_isDashed dashed
    by_cases single : letter = '-'
    · subst single
      obtain ⟨name, same⟩ : ∃ name : String, letters = name.toList := ⟨_, String.toList_ofList.symm⟩
      subst same
      have spelled : argument = "--" ++ name :=
        String.toList_inj.mp (dash.trans (toList_dashes name).symm)
      rw [spelled]
      rcases eq_or_ne name "" with empty | filled
      · rw [empty]
        exact .dashes rfl
      · have named : name.toList ≠ [] := String.toList_eq_nil_iff.not.mpr filled
        by_cases equals : '=' ∈ name.toList
        · obtain ⟨front, back, same, clean⟩ := List.eq_append_cons_of_mem equals
          rw [← String.toList_ofList (l := front)] at clean
          have joined : "--" ++ name =
              "--" ++ String.ofList front ++ "=" ++ String.ofList back := by
            rw [← String.toList_inj, toList_dashes, same, toList_joined, String.toList_ofList,
              String.toList_ofList]
          rw [joined]
          exact .of_joined clean _ rest
        · cases needs : needsValue name with
          | true => exact .of_apart equals named needs rest
          | false => exact .of_flag equals named needs rest
    · exact .of_letter dash single rest

/-- Arguments are read item by item: to their end, to two dashes, or until the reader stops. -/
theorem arguments_induction {motive : List String → Prop} (nil : motive [])
    (item : ∀ {item : Item} {arguments rest : List String},
      item.Starts arguments rest → motive rest → motive arguments)
    (files : ∀ names, motive ("--" :: names))
    (stops : ∀ {argument : String} {rest : List String} (stop : OptionsEnd),
      (∀ options, readFrom options (argument :: rest) = .error stop) →
      (stop = .misuse ∨ AsksOtherwise argument) → motive (argument :: rest))
    (arguments : List String) : motive arguments := by
  induction size : arguments.length using Nat.strong_induction_on generalizing arguments with
  | h size ih =>
    subst size
    cases arguments with
    | nil => exact nil
    | cons argument rest =>
      cases opens argument rest with
      | item starts => exact item starts (ih _ starts.length_lt _ rfl)
      | dashes same =>
        rw [same]
        exact files rest
      | stops stop reads asks => exact stops stop reads asks

/-! ## All arguments -/

theorem readFrom_dashes (names : List String) (options : Options) :
    readFrom options ("--" :: names) = (names.map Item.file).foldlM add options := by
  rw [List.foldlM_map]
  rfl

/-- The reader accepts the arguments that spell items, and adds these. -/
theorem readFrom_eq_ok_iff {arguments : List String} {start options : Options} :
    readFrom start arguments = .ok options ↔
      ∃ items, Item.Spells arguments items ∧ start.Adds items options := by
  -- Both sides add the same items one after another, so each goes by its own induction.
  simp only [← foldlM_add_eq_ok_iff]
  constructor
  · intro reads
    induction arguments using arguments_induction generalizing start with
    | nil => exact ⟨[], .nil, reads⟩
    | @item item arguments rest starts ih =>
      rw [readFrom_of_starts starts, bind_ok_iff] at reads
      obtain ⟨next, added, reads⟩ := reads
      obtain ⟨items, spells, adds⟩ := ih reads
      refine ⟨item :: items, .cons starts spells, ?_⟩
      rw [List.foldlM_cons, added]
      exact adds
    | files names =>
      rw [readFrom_dashes] at reads
      exact ⟨_, .files, reads⟩
    | stops stop stops _ =>
      rw [stops] at reads
      cases reads
  · intro ⟨items, spells, adds⟩
    induction spells generalizing start with
    | nil => exact adds
    | cons starts _ ih =>
      rw [List.foldlM_cons, bind_ok_iff] at adds
      obtain ⟨next, added, adds⟩ := adds
      rw [readFrom_of_starts starts, added]
      exact ih adds
    | files => rwa [readFrom_dashes]

/-- The reader accepts the arguments that are well formed. -/
theorem read_eq_ok_iff {arguments : List String} {options : Options} :
    read arguments = .ok options ↔ WellFormed arguments options := readFrom_eq_ok_iff

/-- Arguments amount to no more than one set of options. -/
theorem WellFormed.unique {arguments : List String} {options other : Options}
    (one : WellFormed arguments options) (two : WellFormed arguments other) : options = other :=
  Except.ok.inj ((read_eq_ok_iff.mpr one).symm.trans (read_eq_ok_iff.mpr two))

/-- So they have a property of some options just if these have it. -/
theorem WellFormed.exists_iff {arguments : List String} {options : Options}
    (wellFormed : WellFormed arguments options) {property : Options → Prop} :
    (∃ other, WellFormed arguments other ∧ property other) ↔ property options := by
  constructor
  · intro some
    obtain ⟨other, same, holds⟩ := some
    rwa [wellFormed.unique same]
  · intro holds
    exact ⟨options, wellFormed, holds⟩

/-! ## Arguments that ask for a run -/

/-- No argument in front of the files asks for something else than to explain and run a program. -/
def Interactive (arguments : List String) : Prop :=
  ∀ argument ∈ arguments.takeWhile (· ≠ "--"), ¬ AsksOtherwise argument

instance (arguments : List String) : Decidable (Interactive arguments) :=
  inferInstanceAs (Decidable (∀ argument ∈ _, ¬ _))

theorem interactive_cons {argument : String} {rest : List String} :
    Interactive (argument :: rest) ↔
      argument = "--" ∨ ¬ AsksOtherwise argument ∧ Interactive rest := by
  by_cases dashes : argument = "--" <;> simp [Interactive, dashes]

theorem add_of_ne_serve {item : Item} (run : item ≠ .serve) (options : Options) :
    (∃ next, options.add item = .ok next ∧ next.serve = options.serve) ∨
      options.add item = .error .misuse := by
  cases item with
  | file name =>
    rw [add, withFile]
    split
    · exact .inr rfl
    · exact .inl ⟨_, rfl, rfl⟩
  | value option text =>
    rw [add, withValue]
    split
    · exact .inl ⟨_, rfl, rfl⟩
    · split
      · exact .inl ⟨_, rfl, rfl⟩
      · exact .inr rfl
  | serve => exact absurd rfl run

theorem interactive_of_starts {item : Item} {arguments rest : List String}
    (starts : item.Starts arguments rest) (interactive : Interactive arguments) :
    item ≠ .serve ∧ Interactive rest := by
  cases starts with
  | file plain =>
    refine ⟨nofun, ((interactive_cons.mp interactive).resolve_left ?_).2⟩
    intro dashes
    rw [dashes] at plain
    revert plain
    decide
  | serve =>
    have asks : AsksOtherwise "--serve" := .inl List.mem_cons_self
    exact absurd asks ((interactive_cons.mp interactive).resolve_left (by decide)).1
  | @joined option text rest =>
    refine ⟨nofun, ((interactive_cons.mp interactive).resolve_left ?_).2⟩
    intro dashes
    have equals : '=' ∈ ("--" ++ option.name ++ "=" ++ text).toList := by
      simp
    rw [dashes] at equals
    revert equals
    decide
  | @apart option text rest plain =>
    have behind := ((interactive_cons.mp interactive).resolve_left (by cases option <;> decide)).2
    refine ⟨nofun, ((interactive_cons.mp behind).resolve_left ?_).2⟩
    intro dashes
    rw [dashes] at plain
    revert plain
    decide

theorem foldlM_add_of_ne_serve {items : List Item} (run : ∀ item ∈ items, item ≠ .serve)
    (start : Options) :
    (∃ options, items.foldlM add start = .ok options ∧ options.serve = start.serve) ∨
      items.foldlM add start = .error .misuse := by
  induction items generalizing start with
  | nil => exact .inl ⟨start, rfl, rfl⟩
  | cons item items ih =>
    obtain ⟨first, others⟩ := List.forall_mem_cons.mp run
    rw [List.foldlM_cons]
    rcases add_of_ne_serve first start with ⟨next, added, same⟩ | refused
    · rw [added, ← same]
      exact ih others next
    · rw [refused]
      exact .inr rfl

/-- Where no argument asks for something else, the reader finds fault with the arguments, or no
requests are to be served. -/
theorem readFrom_of_interactive {arguments : List String} (interactive : Interactive arguments)
    {start : Options} (run : start.serve = false) :
    (∃ options, readFrom start arguments = .ok options ∧ options.serve = false) ∨
      readFrom start arguments = .error .misuse := by
  induction arguments using arguments_induction generalizing start with
  | nil => exact .inl ⟨start, rfl, run⟩
  | @item item arguments rest starts ih =>
    obtain ⟨other, behind⟩ := interactive_of_starts starts interactive
    rw [readFrom_of_starts starts]
    rcases add_of_ne_serve other start with ⟨next, added, same⟩ | refused
    · rw [added]
      exact ih behind (same.trans run)
    · rw [refused]
      exact .inr rfl
  | files names =>
    rw [readFrom_dashes, ← run]
    apply foldlM_add_of_ne_serve
    intro item member
    obtain ⟨name, _, same⟩ := List.mem_map.mp member
    rw [← same]
    exact nofun
  | stops stop stops asks =>
    -- The argument at which the reader stops stands in front of the files.
    rcases asks with misuse | asks
    · rw [stops, misuse]
      exact .inr rfl
    · rcases interactive_cons.mp interactive with dashes | run
      · rw [dashes] at asks
        exact absurd asks (by decide)
      · exact absurd asks run.1

theorem read_of_interactive {arguments : List String} (interactive : Interactive arguments) :
    (∃ options, read arguments = .ok options ∧ options.serve = false) ∨
      read arguments = .error .misuse := readFrom_of_interactive interactive rfl

end Options

end Tutor
