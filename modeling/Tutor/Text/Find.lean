/-!
Looking for a text within another: whether it occurs, and what follows its leftmost occurrence
of a given kind.
-/

namespace Tutor.Text

/-- Whether `text` occurs in another text as a run of neighbouring characters. -/
def occursIn (text : List Char) : List Char → Bool
  | [] => text.isEmpty
  | c :: rest => text.isPrefixOf (c :: rest) || occursIn text rest

/-- What is left of a text behind a given beginning. -/
def dropLead (lead text : List Char) : Option (List Char) :=
  if lead.isPrefixOf text then some (text.drop lead.length) else none

/-- The first answer that `look` gives on the text, on the text without its first character, and so
on to the empty text: the answer at the leftmost place that has one. -/
def leftmost {β : Type} (look : List Char → Option β) : List Char → Option β
  | [] => look []
  | c :: rest =>
    match look (c :: rest) with
    | some answer => some answer
    | none => leftmost look rest

/-- What stands before and behind the leftmost occurrence of `mark`; `before` holds in reverse what
has been passed already. -/
def splitAround (mark : List Char) (before : List Char) :
    List Char → Option (List Char × List Char)
  | [] => if mark.isEmpty then some (before.reverse, []) else none
  | c :: text =>
    match dropLead mark (c :: text) with
    | some rest => some (before.reverse, rest)
    | none => splitAround mark (c :: before) text

/-- The shortest text with at least one character, all on one line, that is followed by `stop`;
`before` holds in reverse what has been passed already. -/
def shortestUpTo (stop : List Char) (before : List Char) : List Char → Option (List Char)
  | [] => none
  | c :: rest =>
    if c = '\n' then none
    else if stop.isPrefixOf rest then some (before.reverse ++ [c])
    else shortestUpTo stop (c :: before) rest

end Tutor.Text
