import Tutor.Proofs.Explain.Names

/-!
Rules that may change places.

The first of the rules that take a text decides, so rules of which no two take the same text may
stand in any order. The rules for how a line opens are of this sort, and so are those for brackets
around a whole line; and where one of the rules for `pass`, `break` and `continue` takes a text, no
other does but the one for variables. Any table that is rearranged within these bounds tells the
same kinds (`LineKind.byRules_rearranged`).
-/

namespace Tutor

namespace Rule

/-! ## Rules that exclude each other -/

/-- No text is taken by both rules. -/
def Apart (rule other : Rule) : Prop :=
  ∀ text, rule.applies text = true → other.applies text ≠ true

/-- The rules of some that take a text, in their order. -/
def taking (text : List Char) (rules : List Rule) : List Rule := rules.filter (·.applies text)

variable {text : List Char} {rules others : List Rule}

theorem mem_taking_iff {rule : Rule} :
    rule ∈ taking text rules ↔ rule ∈ rules ∧ rule.applies text = true :=
  List.mem_filter

theorem taking_append (text : List Char) (rules others : List Rule) :
    taking text (rules ++ others) = taking text rules ++ taking text others :=
  List.filter_append rules others

/-- The order of rules that exclude each other does not matter. -/
theorem taking_eq_of_perm (apart : others.Pairwise Apart) (perm : rules.Perm others)
    (text : List Char) : taking text rules = taking text others := by
  have same : (taking text rules).Perm (taking text others) := perm.filter _
  have distinct : (taking text others).Pairwise Apart := apart.filter _
  cases few : taking text others with
  | nil =>
    rw [few] at same
    exact same.eq_nil
  | cons rule more =>
    have first : rule.applies text = true :=
      (mem_taking_iff.1 (few ▸ List.mem_cons_self : rule ∈ taking text others)).2
    cases more with
    | nil =>
      rw [few] at same
      exact List.perm_singleton.1 same
    | cons other more =>
      have second : other.applies text = true :=
        (mem_taking_iff.1 (few ▸ List.mem_cons_of_mem _ List.mem_cons_self :
          other ∈ taking text others)).2
      rw [few] at distinct
      exact absurd second ((List.pairwise_cons.1 distinct).1 other List.mem_cons_self text first)

/-- Rules that do not take the text may be left out. -/
theorem taking_filter {test : Rule → Bool}
    (kept : ∀ rule ∈ rules, rule.applies text = true → test rule = true) :
    taking text (rules.filter test) = taking text rules := by
  rw [taking, taking, List.filter_filter]
  refine List.filter_congr fun rule member => ?_
  cases applies : rule.applies text with
  | false => rfl
  | true => rw [kept rule member applies, Bool.true_and]

end Rule

/-- The kind of a text is a matter of the rules that take it. -/
theorem LineKind.byRules_congr {text : List Char} {rules others : List Rule}
    (same : Rule.taking text rules = Rule.taking text others) :
    byRules rules text = byRules others text := by
  simp only [byRules, ← List.head?_filter]
  rw [← Rule.taking, same, Rule.taking]

/-! ## The parts of the table -/

namespace LineKind

/-- How a line opens. -/
def leadingKinds : List LineKind := [.blank, .comment, .importModule, .functionDef, .classDef,
  .forLoop, .whileLoop, .ifBranch, .elifBranch, .elseBranch, .exceptBlock, .tryBlock,
  .finallyBlock]

/-- Brackets around the whole line. -/
def literalKinds : List LineKind := [.listLiteral, .dictLiteral, .tupleLiteral]

/-- A word and nothing else. -/
def wordKinds : List LineKind := [.passWord, .breakWord, .continueWord]

/-- What a line of this kind begins with, where it has to begin with something. -/
def openers : LineKind → List String
  | .comment => ["#"]
  | .importModule => ["from", "import"]
  | .functionDef => ["def"]
  | .classDef => ["class"]
  | .forLoop => ["for"]
  | .whileLoop => ["while"]
  | .ifBranch => ["if"]
  | .elifBranch => ["elif"]
  | .elseBranch => ["else"]
  | .exceptBlock => ["except"]
  | .tryBlock => ["try"]
  | .finallyBlock => ["finally"]
  | .listLiteral => ["["]
  | .dictLiteral => ["\x7b"]
  | .tupleLiteral => ["("]
  | _ => []

end LineKind

namespace Rule

open LineKind Pattern Regular

/-- The rules of the table for these kinds, in their order. -/
def ofKinds (kinds : List LineKind) : List Rule := table.filter (·.kind ∈ kinds)

/-! ## Openings -/

/-- The rule takes only texts that begin as its kind demands; blank lines take the empty text. -/
def HasOpener (rule : Rule) : Prop := ∀ text, rule.applies text = true →
  rule.kind = .blank ∧ text = [] ∨ ∃ word ∈ rule.kind.openers, word.toList <+: text

theorem ofPattern_hasOpener {kind : LineKind} {p : Pattern} {word : String}
    {pieces : List (Language Char)} {right : Anchor} (opener : word ∈ kind.openers)
    (same : ∀ text, p.Occurs text ↔ Matches atStart (written word :: pieces) right text) :
    (ofPattern kind p).HasOpener := by
  intro text applies
  have found := (same text).1 (occursIn_iff.1 applies)
  exact .inr ⟨word, opener, found.begins⟩

theorem leading_hasOpener : ∀ rule ∈ ofKinds leadingKinds, rule.HasOpener := by
  have rules : ofKinds leadingKinds = table.take 13 := rfl
  rw [rules, table]
  simp only [List.take_succ_cons, List.take_zero, List.forall_mem_cons]
  refine ⟨?blank, ?comment, ?importModule, ofPattern_hasOpener (by decide) functionPattern_iff,
    ofPattern_hasOpener (by decide) classPattern_iff,
    ofPattern_hasOpener (by decide) (opening_iff · "for"),
    ofPattern_hasOpener (by decide) (opening_iff · "while"),
    ofPattern_hasOpener (by decide) (opening_iff · "if"),
    ofPattern_hasOpener (by decide) (opening_iff · "elif"),
    ofPattern_hasOpener (by decide) (openingAlone_iff · "else"),
    ofPattern_hasOpener (by decide) exceptPattern_iff,
    ofPattern_hasOpener (by decide) (openingAlone_iff · "try"),
    ofPattern_hasOpener (by decide) (openingAlone_iff · "finally"), List.forall_mem_nil _⟩
  case blank => exact fun _ applies => .inl ⟨rfl, List.isEmpty_iff.1 applies⟩
  case comment =>
    exact fun text applies => .inr ⟨"#", List.mem_cons_self, (comment_iff text).1 applies⟩
  case importModule =>
    intro text applies
    obtain ⟨word, opener, found⟩ := (importPattern_iff text).1 (occursIn_iff.1 applies)
    exact .inr ⟨word, opener, found.begins⟩

theorem isWhole_hasOpener {kind : LineKind} {opened : Char} (closed : Char) {word : String}
    (opener : word ∈ kind.openers) (same : word.toList = [opened]) :
    (⟨kind, isWhole opened closed⟩ : Rule).HasOpener := by
  intro text applies
  obtain ⟨inner, rfl⟩ := (isWhole_iff opened closed text).1 applies
  exact .inr ⟨word, opener, same ▸ List.prefix_append [opened] (inner ++ [closed])⟩

theorem literals_haveOpener : ∀ rule ∈ ofKinds literalKinds, rule.HasOpener := by
  have rules : ofKinds literalKinds = (table.drop 17).take 3 := rfl
  rw [rules, table]
  simp only [List.drop_succ_cons, List.drop_zero, List.take_succ_cons, List.take_zero,
    List.forall_mem_cons]
  exact ⟨isWhole_hasOpener ']' List.mem_cons_self rfl,
    isWhole_hasOpener '\x7d' List.mem_cons_self rfl,
    isWhole_hasOpener ')' List.mem_cons_self rfl, List.forall_mem_nil _⟩

/-- No opener begins with one of another kind. -/
theorem openers_apart :
    ∀ kind ∈ leadingKinds ++ literalKinds, ∀ other ∈ leadingKinds ++ literalKinds,
    kind ≠ other → ∀ word ∈ kind.openers, ∀ beginning ∈ other.openers,
      ¬ beginning.toList <+: word.toList := by
  decide

theorem opener_ne_nil : ∀ kind ∈ leadingKinds ++ literalKinds, ∀ word ∈ kind.openers,
    word.toList ≠ [] := by
  decide

/-- Rules for different kinds exclude each other by how the text begins. -/
theorem HasOpener.apart {rule other : Rule} (opens : rule.HasOpener) (opensOther : other.HasOpener)
    (isKind : rule.kind ∈ leadingKinds ++ literalKinds)
    (isOther : other.kind ∈ leadingKinds ++ literalKinds) (distinct : rule.kind ≠ other.kind) :
    rule.Apart other := by
  intro text applies appliesOther
  rcases opens text applies with ⟨blank, rfl⟩ | ⟨word, opener, begins⟩
  · rcases opensOther [] appliesOther with ⟨blankOther, -⟩ | ⟨word, opener, begins⟩
    · exact distinct (blank.trans blankOther.symm)
    · exact opener_ne_nil _ isOther word opener (List.prefix_nil.1 begins)
  · rcases opensOther text appliesOther with ⟨-, rfl⟩ | ⟨beginning, openerOther, beginsOther⟩
    · exact opener_ne_nil _ isKind word opener (List.prefix_nil.1 begins)
    · rcases List.prefix_or_prefix_of_prefix begins beginsOther with first | second
      · exact openers_apart _ isOther _ isKind distinct.symm _ openerOther _ opener first
      · exact openers_apart _ isKind _ isOther distinct _ opener _ openerOther second

theorem pairwise_apart {rules : List Rule} (distinct : (rules.map Rule.kind).Nodup)
    (apart : ∀ rule ∈ rules, ∀ other ∈ rules, rule.kind ≠ other.kind → rule.Apart other) :
    rules.Pairwise Apart :=
  (List.pairwise_map.1 distinct).imp_of_mem fun {rule other} member memberOther =>
    apart rule member other memberOther

theorem kind_mem_of_mem_ofKinds {rule : Rule} {kinds : List LineKind}
    (member : rule ∈ ofKinds kinds) : rule.kind ∈ kinds := by
  simpa using (List.mem_filter.1 member).2

theorem mem_table_of_mem_ofKinds {rule : Rule} {kinds : List LineKind}
    (member : rule ∈ ofKinds kinds) : rule ∈ table :=
  (List.mem_filter.1 member).1

theorem ofKinds_apart {kinds : List LineKind} (opens : ∀ rule ∈ ofKinds kinds, rule.HasOpener)
    (known : kinds ⊆ leadingKinds ++ literalKinds)
    (distinct : ((ofKinds kinds).map Rule.kind).Nodup) : (ofKinds kinds).Pairwise Apart := by
  refine pairwise_apart distinct fun rule member other memberOther => ?_
  exact (opens rule member).apart (opens other memberOther)
    (known (kind_mem_of_mem_ofKinds member)) (known (kind_mem_of_mem_ofKinds memberOther))

/-- At most one rule for how a line opens takes a text. -/
theorem leading_apart : (ofKinds leadingKinds).Pairwise Apart :=
  ofKinds_apart leading_hasOpener (List.subset_append_left _ _) (by decide)

/-- At most one rule for brackets around the line takes a text. -/
theorem literals_apart : (ofKinds literalKinds).Pairwise Apart :=
  ofKinds_apart literals_haveOpener (List.subset_append_right _ _) (by decide)

/-! ## Words -/

/-- Lines of two kinds are not made of the same name. -/
theorem kind_eq_of_mem_ownNames : ∀ kind ∈ table.map Rule.kind, ∀ other ∈ table.map Rule.kind,
    ∀ word ∈ kind.ownNames, word ∈ other.ownNames → other = kind := by
  decide

theorem eq_word_of_applies : ∀ rule ∈ ofKinds wordKinds, ∀ text, rule.applies text = true →
    ∃ word ∈ rule.kind.ownNames, text = word.toList := by
  have rules : ofKinds wordKinds = [⟨.passWord, isWord "pass"⟩, ⟨.breakWord, isWord "break"⟩,
    ⟨.continueWord, isWord "continue"⟩] := rfl
  simp only [rules, List.forall_mem_cons]
  refine ⟨fun _ applies => ⟨"pass", ?_, beq_iff_eq.1 applies⟩,
    fun _ applies => ⟨"break", ?_, beq_iff_eq.1 applies⟩,
    fun _ applies => ⟨"continue", ?_, beq_iff_eq.1 applies⟩, List.forall_mem_nil _⟩
  all_goals exact List.mem_cons_self

/-- A text that is one of the words is taken by its own rule and the one for variables alone. -/
theorem word_alone {rule other : Rule} (member : rule ∈ ofKinds wordKinds)
    (memberOther : other ∈ table) {text : List Char} (applies : rule.applies text = true)
    (appliesOther : other.applies text = true) :
    other.kind = rule.kind ∨ other.kind = .variableReference := by
  obtain ⟨word, own, rfl⟩ := eq_word_of_applies rule member text applies
  have name := isName_of_mem_claimedNames word (rule.kind.ownNames_subset own)
  rcases (applies_name_iff memberOther name).1 appliesOther with kind | ⟨again, ownOther, same⟩
  · exact .inr kind
  · obtain rfl : word = again := String.toList_inj.1 same
    exact .inl (kind_eq_of_mem_ownNames _
      (List.mem_map_of_mem (mem_table_of_mem_ofKinds member)) _ (List.mem_map_of_mem memberOther)
      word own ownOther)

theorem words_apart : (ofKinds wordKinds).Pairwise Apart := by
  refine pairwise_apart (by decide) fun rule member other memberOther distinct => ?_
  intro text applies appliesOther
  have noVariable : ∀ kind ∈ wordKinds, kind ≠ .variableReference := by decide
  rcases word_alone member (mem_table_of_mem_ofKinds memberOther) applies appliesOther with
    same | variableKind
  · exact distinct same.symm
  · exact noVariable _ (kind_mem_of_mem_ofKinds memberOther) variableKind

/-! ## Tables in another order -/

/-- The rules for calls of functions that have a kind of their own. -/
def calls : List Rule := ofKinds [.sequence, .input, .length, .print]

/-- The rules for signs and brackets within a line, for calls, and for lines that leave a
function. -/
def signs : List Rule := ofKinds [.collection, .indexing, .arithmetic, .comparison, .booleanLogic,
  .methodCall, .functionCall, .returnLoop, .returnValue, .assignment]

/-- The rules of the table in an order that may differ from its own in three ways: the rules for how
a line opens stand in any order in their places, those for brackets around the line in theirs, and
the rules for a single word anywhere before the one for variables. -/
inductive Rearranged : List Rule → Prop
  | intro {leading literals front : List Rule} :
    leading.Perm (ofKinds leadingKinds) → literals.Perm (ofKinds literalKinds) →
    front.filter (·.kind ∉ wordKinds) = leading ++ calls ++ literals ++ signs →
    (front.filter (·.kind ∈ wordKinds)).Perm (ofKinds wordKinds) →
    Rearranged (front ++ ofKinds [.variableReference])

theorem table_rearranged : Rearranged table :=
  @Rearranged.intro _ _ table.dropLast (.refl _) (.refl _) rfl (.refl _)

/-- The rules without those for a single word and for variables, in the order of the table. -/
def steady : List Rule := ofKinds leadingKinds ++ calls ++ ofKinds literalKinds ++ signs

theorem mem_steady_iff {rule : Rule} :
    rule ∈ steady ↔ rule ∈ table ∧ rule.kind ∉ .variableReference :: wordKinds := by
  have filtered : steady = table.filter (·.kind ∉ .variableReference :: wordKinds) := rfl
  rw [filtered, List.mem_filter, decide_eq_true_iff]

/-- Which rules take a text, and in which order, is the same in every table that is so rearranged:
the rule for the word that the text is, or else the steady ones. -/
theorem Rearranged.taking_eq {rules : List Rule} (rearranged : Rearranged rules)
    (text : List Char) : taking text rules =
      (if ∃ rule ∈ ofKinds wordKinds, rule.applies text = true then taking text (ofKinds wordKinds)
        else taking text steady) ++ taking text (ofKinds [.variableReference]) := by
  obtain @⟨leading, literals, front, leadingPerm, literalsPerm, others, words⟩ := rearranged
  rw [taking_append]
  split
  case isTrue isWord =>
    obtain ⟨rule, member, applies⟩ := isWord
    have inSteady : leading ++ calls ++ literals ++ signs ⊆ steady :=
      (((leadingPerm.append_right _).append literalsPerm).append_right _).subset
    have kept : ∀ other ∈ front, other.applies text = true →
        decide (other.kind ∈ wordKinds) = true := by
      intro other memberOther appliesOther
      by_contra noWord
      have isSteady : other ∈ front.filter (·.kind ∉ wordKinds) :=
        List.mem_filter.2 ⟨memberOther, by simpa using noWord⟩
      rw [others] at isSteady
      obtain ⟨inTable, otherKind⟩ := mem_steady_iff.1 (inSteady isSteady)
      rcases word_alone member inTable applies appliesOther with same | variableKind
      · exact otherKind (List.mem_cons_of_mem _ (same ▸ kind_mem_of_mem_ofKinds member))
      · exact otherKind (variableKind ▸ List.mem_cons_self)
    rw [← taking_filter kept, taking_eq_of_perm words_apart words]
  case isFalse noWord =>
    have kept : ∀ other ∈ front, other.applies text = true →
        decide (other.kind ∉ wordKinds) = true := by
      intro other memberOther appliesOther
      by_contra isWord
      have inWords : other ∈ front.filter (·.kind ∈ wordKinds) :=
        List.mem_filter.2 ⟨memberOther, by simpa using isWord⟩
      exact noWord ⟨other, words.subset inWords, appliesOther⟩
    rw [← taking_filter kept, others, steady]
    simp only [taking_append, taking_eq_of_perm leading_apart leadingPerm,
      taking_eq_of_perm literals_apart literalsPerm]

end Rule

open LineKind Rule

/-- Of the rules for how a line opens at most one takes a text, and so of those for brackets around
the whole line; and a text that one of the rules for a single word takes is taken by no other rule
but the one for variables. So the kind of no line changes where rules of the first two sorts are
permuted among themselves and rules for a word are moved anywhere before the one for variables. -/
theorem LineKind.byRules_rearranged :
    (ofKinds leadingKinds).Pairwise Apart ∧ (ofKinds literalKinds).Pairwise Apart ∧
      (∀ rule ∈ ofKinds wordKinds, ∀ text, rule.applies text = true →
        ∀ other ∈ table, other.applies text = true →
          other.kind = rule.kind ∨ other.kind = .variableReference) ∧
      ∀ rules, Rearranged rules → ∀ line : String,
        byRules rules (Text.trim line.toList) = ofLine line := by
  refine ⟨leading_apart, literals_apart, ?_, ?_⟩
  · intro rule member text applies other memberOther appliesOther
    exact word_alone member memberOther applies appliesOther
  · intro rules rearranged line
    apply byRules_congr
    rw [rearranged.taking_eq, table_rearranged.taking_eq]

/-- The words first, between openings and last, and the two other sorts turned round. -/
theorem LineKind.byRules_rearranged_reversed :
    let words := ofKinds wordKinds
    let rules := words.take 1 ++ (ofKinds leadingKinds).reverse ++ (words.drop 1).take 1 ++ calls ++
      (ofKinds literalKinds).reverse ++ signs ++ words.drop 2 ++ ofKinds [.variableReference]
    Rearranged rules ∧ byRules rules (Text.trim "  except (KeyError): pass".toList) = .exceptBlock ∧
      byRules rules (Text.trim "\tcontinue ".toList) = .continueWord ∧
      ∀ other ∈ table, other.applies "break".toList = true →
        other.kind = .breakWord ∨ other.kind = .variableReference := by
  intro words rules
  have rearranged : Rearranged rules :=
    .intro (List.reverse_perm _) (List.reverse_perm _) rfl (.refl _)
  have breakRule : ⟨.breakWord, isWord "break"⟩ ∈ ofKinds wordKinds :=
    List.mem_cons_of_mem _ List.mem_cons_self
  obtain ⟨-, -, alone, same⟩ := LineKind.byRules_rearranged
  refine ⟨rearranged, ?_, ?_, alone _ breakRule "break".toList rfl⟩
  · rw [same rules rearranged]
    decide
  · rw [same rules rearranged]
    decide

end Tutor
