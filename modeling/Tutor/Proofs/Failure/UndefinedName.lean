import Tutor.Proofs.Failure.Category
import Tutor.Proofs.Text.Leftmost

/-!
The name that a report calls undefined.

A mention is complete if some name stands between the words around it, on one line. `FirstName` says
which name counts: the shortest at the first complete mention. The reader agrees with it
(`undefinedName_eq_some_iff`), and the message about a missing name quotes just this name
(`Diagnosis.quotes_first_name`). A mention that is not complete is passed over with its line
(`Unhidden.firstName`).
-/

namespace Tutor

/-! ## Mentions of a name -/

/-- What stands in front of an undefined name. -/
def nameLead : List Char := "NameError: name '".toList

/-- What stands behind an undefined name. -/
def nameStop : List Char := "' is not defined".toList

/-- A text begins with a complete mention of an undefined name. -/
def MentionsName (text : List Char) : Prop := ∃ name, Text.Enclosed nameLead nameStop text name

/-- The shortest name that is called undefined at the first complete mention in a report. -/
def FirstName (report name : List Char) : Prop :=
  ∃ rest, Text.FirstPlace MentionsName report rest ∧ Text.Shortest nameLead nameStop rest name

variable {text name : List Char}

/-- The name that is called undefined at the start of a text. -/
def nameAt (text : List Char) : Option (List Char) :=
  (Text.dropLead nameLead text).bind (Text.shortestUpTo nameStop [])

theorem undefinedName_eq : undefinedName = Text.leftmost nameAt := rfl

theorem nameAt_eq_some_iff :
    nameAt text = some name ↔ Text.Shortest nameLead nameStop text name := by
  simp only [nameAt, Option.bind_eq_some_iff, Text.dropLead_eq_some_iff,
    Text.shortestUpTo_eq_some_iff]
  constructor
  · intro ⟨rest, split, shortest⟩
    rw [split]
    exact Text.shortest_append_iff.2 shortest
  · intro shortest
    obtain ⟨behind, split⟩ := shortest.stands
    rw [List.append_assoc] at split
    rw [← split] at shortest
    exact ⟨_, split.symm, Text.shortest_append_iff.1 shortest⟩

theorem nameAt_ne_none_iff (text : List Char) : nameAt text ≠ none ↔ MentionsName text := by
  simp only [Option.ne_none_iff_exists', nameAt_eq_some_iff]
  constructor
  · intro ⟨name, shortest⟩
    exact ⟨name, shortest.toEnclosed⟩
  · intro ⟨name, enclosed⟩
    exact enclosed.exists_shortest

/-- The name that is read is the shortest at the first complete mention. -/
theorem undefinedName_eq_some_iff : undefinedName text = some name ↔ FirstName text name := by
  simp only [undefinedName_eq, Text.leftmost_eq_some_iff nameAt_ne_none_iff, nameAt_eq_some_iff,
    FirstName]

/-- No name is read exactly where no mention is complete. -/
theorem undefinedName_eq_none_iff :
    undefinedName text = none ↔ ¬ Text.Somewhere MentionsName text :=
  Text.leftmost_eq_none_iff nameAt_ne_none_iff

/-! ## Names that are found -/

theorem nameLead_alone : Text.HeadAlone nameLead := ⟨_, _, rfl, by decide⟩

theorem nameStop_alone : Text.HeadAlone nameStop := ⟨_, _, rfl, by decide⟩

/-- A complete mention does not go past the end of its line. -/
theorem MentionsName.of_line {before behind : List Char}
    (mentions : MentionsName (before ++ '\n' :: behind)) : MentionsName before := by
  obtain ⟨name, enclosed⟩ := mentions
  exact ⟨name, enclosed.of_line (by decide) (by decide)⟩

/-- A name that nothing in front of its mention hides. The earlier lines are whole and hold no
complete mention, and on the same line no other mention begins; the name may be made of any
characters, but does not break the line, nor hold what stands behind a name, except from its first
character on. -/
structure Unhidden (earlier line name : List Char) : Prop where
  whole : earlier = [] ∨ earlier.getLast? = some '\n'
  incomplete : ¬ Text.Somewhere MentionsName earlier
  noOther : ¬ nameLead <:+: line
  nonempty : name ≠ []
  oneLine : '\n' ∉ name
  closed : ¬ nameStop <:+: name.tail

/-- Such a name is found in full. -/
theorem Unhidden.firstName {earlier line : List Char} (unhidden : Unhidden earlier line name)
    (behind : List Char) :
    FirstName (earlier ++ line ++ (nameLead ++ (name ++ (nameStop ++ behind)))) name := by
  have shortest :
      Text.Shortest nameLead nameStop (nameLead ++ (name ++ (nameStop ++ behind))) name :=
    .of_not_infix_tail nameStop_alone unhidden.nonempty unhidden.oneLine unhidden.closed
  have starts (text : List Char) (mentions : MentionsName text) : nameLead <+: text := by
    obtain ⟨name, enclosed⟩ := mentions
    exact (List.prefix_append nameLead _).trans enclosed.stands
  refine ⟨_, .of_mark nameLead_alone starts ⟨name, shortest.toEnclosed⟩ ?_, shortest⟩
  intro between within mentions
  rcases Text.suffix_append_cases within with inLine | ⟨inner, inEarlier, some, split⟩
  · exact unhidden.noOther ((List.prefix_append nameLead between).isInfix.trans inLine.isInfix)
  · -- The mention would begin on an earlier line, and be complete on it.
    have filled : earlier ≠ [] := by
      intro none
      rw [none, List.suffix_nil] at inEarlier
      exact some inEarlier
    have feed : inner.getLast? = Option.some '\n' := by
      obtain ⟨front, whole⟩ := inEarlier
      rw [← unhidden.whole.resolve_left filled, ← whole, List.getLast?_append_of_ne_nil front some]
    obtain ⟨front, same⟩ := List.getLast?_eq_some_iff.1 feed
    rw [← List.append_assoc, split, same] at mentions
    simp only [List.append_assoc, List.singleton_append] at mentions
    obtain ⟨other, enclosed⟩ := mentions.of_line
    refine unhidden.incomplete ⟨inner, inEarlier, other, enclosed.mono ?_⟩
    rw [same]
    exact List.prefix_append front _

/-! ## The message about a missing name -/

theorem FailureCategory.ofReport_eq_nameFault {report : List Char}
    (named : "NameError".toList <:+: report) (parsed : ¬ "SyntaxError".toList <:+: report) :
    ofReport report = .nameFault := by
  have first : Text.occursIn "SyntaxError".toList report = false := by
    rwa [← Bool.not_eq_true, Text.occursIn_iff]
  have second : Text.occursIn "NameError".toList report = true := Text.occursIn_iff.2 named
  simp only [ofReport, markers, List.find?_cons, first, second]

/-- The message that quotes a name as undefined, behind an opening. -/
def quotingMessage (opening : String) (name : List Char) : String :=
  opening ++ "'" ++ String.ofList name ++
    "' is not defined. Did you misspell it or forget to assign it?"

theorem messageOn_nameFault {report : String}
    (category : FailureCategory.ofReport report.toList = .nameFault) :
    let opening := "Name error" ++ lineMention (blamedLine report.toList) ++ ": "
    FailureInfo.messageOn report =
      match undefinedName report.toList with
      | some name => quotingMessage opening name
      | none => opening ++ "a name was used before it was defined." := by
  have label : FailureCategory.nameFault.label = "Name error" := rfl
  rw [FailureInfo.messageOn_eq, category, label, FailureCategory.advice_nameFault]
  cases undefinedName report.toList with
  | none => rfl
  | some name => simp only [quotingMessage, String.append_assoc]

namespace Diagnosis

/-- A report about a name, and not about syntax, is told by the first complete mention of an
undefined name in it: the message quotes the shortest text between the words around it. That is at
least one character, all on one line, and holds what stands behind a name at most from its first
character on. Where no mention is complete the message is the same for all names. -/
theorem quotes_first_name (report : String) (named : "NameError".toList <:+: report.toList)
    (parsed : ¬ "SyntaxError".toList <:+: report.toList) :
    ∃ diagnosis, ofReport? report = some diagnosis ∧ diagnosis.category = .nameFault ∧
      diagnosis.line = blamedLine report.toList ∧
      let opening := "Name error" ++ lineMention diagnosis.line ++ ": "
      (Text.Somewhere MentionsName report.toList →
        ∃ name, FirstName report.toList name ∧ '\n' ∉ name ∧ ¬ nameStop <:+: name.tail ∧
          diagnosis.friendlyMessage = quotingMessage opening name) ∧
      (¬ Text.Somewhere MentionsName report.toList →
        diagnosis.friendlyMessage = opening ++ "a name was used before it was defined.") ∧
      ∀ earlier line name behind, Unhidden earlier line name →
        report.toList = earlier ++ line ++ (nameLead ++ (name ++ (nameStop ++ behind))) →
        diagnosis.friendlyMessage = quotingMessage opening name := by
  have filled : report ≠ "" := by
    intro empty
    rw [empty] at named
    exact absurd named (by decide)
  have message := messageOn_nameFault (FailureCategory.ofReport_eq_nameFault named parsed)
  refine ⟨_, FailureInfo.ofReport?_of_ne filled,
    FailureCategory.ofReport_eq_nameFault named parsed, rfl, ?_, ?_, ?_⟩
  · intro mentioned
    obtain ⟨name, read⟩ := Option.ne_none_iff_exists'.1
      (fun none => undefinedName_eq_none_iff.1 none mentioned)
    have first := undefinedName_eq_some_iff.1 read
    have ⟨_, _, shortest⟩ := first
    rw [read] at message
    exact ⟨name, first, shortest.oneLine, shortest.not_infix_tail (by decide), message⟩
  · intro absent
    rw [undefinedName_eq_none_iff.2 absent] at message
    exact message
  · intro earlier line name behind unhidden split
    have first := unhidden.firstName behind
    rw [← split, ← undefinedName_eq_some_iff] at first
    rw [first] at message
    exact message

/-- A name with a quote in it, behind a mention that its line leaves incomplete. -/
theorem quotes_first_name_behind :
    let report := "NameError: name 'a\nin it: NameError: name 'b's' is not defined"
    "NameError".toList <:+: report.toList ∧ ¬ "SyntaxError".toList <:+: report.toList ∧
      Unhidden "NameError: name 'a\n".toList "in it: ".toList "b's".toList ∧
      (ofReport? report).map (·.friendlyMessage) =
        some "Name error: 'b's' is not defined. Did you misspell it or forget to assign it?" := by
  intro report
  have named : "NameError".toList <:+: report.toList := Text.occursIn_iff.1 (by decide)
  have parsed : ¬ "SyntaxError".toList <:+: report.toList := by
    rw [← Text.occursIn_iff]
    decide
  have incomplete : ¬ Text.Somewhere MentionsName "NameError: name 'a\n".toList :=
    undefinedName_eq_none_iff.1 (by decide)
  have unhidden : Unhidden "NameError: name 'a\n".toList "in it: ".toList "b's".toList :=
    ⟨.inr (by decide), incomplete, by decide, by decide, by decide, by decide⟩
  obtain ⟨diagnosis, read, -, line, -, -, quotes⟩ := quotes_first_name report named parsed
  have message := quotes _ _ _ [] unhidden (by decide)
  refine ⟨named, parsed, unhidden, ?_⟩
  rw [read, Option.map_some, message, line]
  decide

end Diagnosis

end Tutor
