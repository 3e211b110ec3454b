import FaultContext.Text.Basic

/-!
# Glob patterns

The pieces of a glob and how its text is read. Two stars are recursive only between slashes or the
ends of the pattern or of an alternative; anywhere else they are two single stars. Inside a character
class a backslash is an ordinary character, and outside it takes the meaning from the next one.
-/

namespace FaultContext.Glob

set_option autoImplicit false

inductive Token where
  | literal (c : Char)
  | anyOne
  | anyRun
  | recursiveStart
  | recursiveMiddle
  | recursiveEnd
  | charClass (negated : Bool) (ranges : List (Char × Char))
  | alternatives (branches : List (List Token))

inductive GlobError where
  | unclosedClass
  | invalidRange (first last : Char)
  | unopenedAlternatives
  | unclosedAlternatives
  | danglingEscape
deriving DecidableEq, Repr

def GlobError.reason : GlobError → Text
  | .unclosedClass => "unclosed character class; missing ']'".toList
  | .invalidRange first last => "invalid range; '".toList ++ first :: "' > '".toList ++ last :: ['\'']
  | .unopenedAlternatives =>
      "unopened alternate group; missing '\x7b' (maybe escape '\x7d' with '[\x7d]'?)".toList
  | .unclosedAlternatives =>
      "unclosed alternate group; missing '\x7d' (maybe escape '\x7b' with '[\x7b]'?)".toList
  | .danglingEscape => "dangling '\\'".toList

def GlobError.message (pattern : Text) (error : GlobError) : Text :=
  "error parsing glob '".toList ++ pattern ++ "': ".toList ++ error.reason

/-- A group of alternatives that is still open: the pieces in front of it, the latest first, and the
alternatives that are complete. -/
structure OpenGroup where
  outer : List Token
  complete : List (List Token)

/-- What has been read: the pieces of the innermost open alternative, the latest first, and the open
groups around it, the innermost first. -/
structure Progress where
  pieces : List Token := []
  groups : List OpenGroup := []

def Progress.push (progress : Progress) (token : Token) : Progress :=
  { progress with pieces := token :: progress.pieces }

/-- The members of a class and what follows it. `ranges` holds what was read, the latest first;
`first` says that nothing was, and `pending` that a dash asks for the end of a range. -/
def readClass (first pending : Bool) (ranges : List (Char × Char)) :
    Text → Except GlobError (List (Char × Char) × Text)
  | [] => .error .unclosedClass
  | c :: rest =>
      if c = ']' ∧ !first then
        .ok ((if pending then ('-', '-') :: ranges else ranges).reverse, rest)
      else if c = '-' ∧ !first ∧ !pending then readClass false true ranges rest
      else if pending then
        match ranges with
        | [] => readClass false false [(c, c)] rest
        | (low, _) :: others =>
            if c < low then .error (.invalidRange low c)
            else readClass false false ((low, c) :: others) rest
      else readClass false false ((c, c) :: ranges) rest

theorem length_le_of_readClass {first pending : Bool} {ranges found : List (Char × Char)}
    {text rest : Text} (read : readClass first pending ranges text = .ok (found, rest)) :
    rest.length ≤ text.length := by
  induction text generalizing first pending ranges with
  | nil => simp [readClass] at read
  | cons c tail ih =>
      unfold readClass at read
      split at read
      · obtain ⟨-, rfl⟩ := Prod.mk.inj (Except.ok.inj read)
        simp
      · split at read
        · exact Nat.le_succ_of_le (ih read)
        · split at read
          · split at read
            · exact Nat.le_succ_of_le (ih read)
            · split at read
              · simp at read
              · exact Nat.le_succ_of_le (ih read)
          · exact Nat.le_succ_of_le (ih read)

def readClassToken (text : Text) : Except GlobError (Token × Text) :=
  let (negated, members) :=
    match text with
    | '!' :: rest => (true, rest)
    | '^' :: rest => (true, rest)
    | _ => (false, text)
  match readClass true false [] members with
  | .error error => .error error
  | .ok (ranges, rest) => .ok (.charClass negated ranges, rest)

theorem length_le_of_readClassToken {text rest : Text} {token : Token}
    (read : readClassToken text = .ok (token, rest)) : rest.length ≤ text.length := by
  unfold readClassToken at read
  dsimp only at read
  split at read
  · simp at read
  · rename_i found
    obtain ⟨-, rfl⟩ := Prod.mk.inj (Except.ok.inj read)
    have bound := length_le_of_readClass found
    split at bound
    · exact Nat.le_succ_of_le bound
    · exact Nat.le_succ_of_le bound
    · exact bound

/-- The recursive piece that takes the place of the slash before two stars, unless a recursive piece
stands there already. -/
def Progress.recurse (progress : Progress) (token : Token) : Progress :=
  match progress.pieces with
  | .recursiveStart :: _ => progress
  | .recursiveEnd :: _ => progress
  | _ :: before => { progress with pieces := token :: before }
  | [] => progress

/-- Two stars that are not recursive. -/
def Progress.twoRuns (progress : Progress) : Progress := (progress.push .anyRun).push .anyRun

/-- Reads two stars behind `previous`: what has been read then, and whether a slash directly behind
belongs to them. -/
def Progress.twoStars (progress : Progress) (previous next : Option Char) : Progress × Bool :=
  if progress.pieces.isEmpty then
    if next.isNone then (progress.push .recursiveStart, false)
    else if next == some '/' then (progress.push .recursiveStart, true)
    else (progress.twoRuns, false)
  else if previous != some '/' &&
      (progress.groups.isEmpty || (previous != some ',' && previous != some '{')) then
    (progress.twoRuns, false)
  else if next.isNone then (progress.recurse .recursiveEnd, false)
  else if (next == some ',' || next == some '}') && !progress.groups.isEmpty then
    (progress.recurse .recursiveEnd, false)
  else if next == some '/' then (progress.recurse .recursiveMiddle, true)
  else (progress.twoRuns, false)

def Progress.open (progress : Progress) : Progress where
  pieces := []
  groups := ⟨progress.pieces, []⟩ :: progress.groups

/-- Reads a comma, which separates alternatives inside a group. -/
def Progress.comma (progress : Progress) : Progress :=
  match progress.groups with
  | [] => progress.push (.literal ',')
  | group :: outer =>
      ⟨[], { group with complete := group.complete ++ [progress.pieces.reverse] } :: outer⟩

def Progress.close (progress : Progress) : Except GlobError Progress :=
  match progress.groups with
  | [] => .error .unopenedAlternatives
  | group :: outer =>
      .ok ⟨.alternatives (group.complete ++ [progress.pieces.reverse]) :: group.outer, outer⟩

/-- Reads a glob on from what has been read; `previous` is the character before the text. -/
def readFrom (previous : Option Char) (progress : Progress) (text : Text) :
    Except GlobError Progress :=
  match text with
  | [] => .ok progress
  | '?' :: rest => readFrom (some '?') (progress.push .anyOne) rest
  | '*' :: '*' :: rest =>
      match progress.twoStars previous rest.head?, rest with
      | (further, true), slash :: behind => readFrom (some slash) further behind
      | (further, _), rest => readFrom (some '*') further rest
  | '*' :: rest => readFrom (some '*') (progress.push .anyRun) rest
  | '[' :: rest =>
      match _found : readClassToken rest with
      | .error error => .error error
      | .ok (token, behind) => readFrom (some ']') (progress.push token) behind
  | '{' :: rest => readFrom (some '{') progress.open rest
  | '}' :: rest =>
      match progress.close with
      | .error error => .error error
      | .ok further => readFrom (some '}') further rest
  | ',' :: rest => readFrom (some ',') progress.comma rest
  | '\\' :: rest =>
      match rest with
      | [] => .error .danglingEscape
      | c :: behind => readFrom (some c) (progress.push (.literal c)) behind
  | c :: rest => readFrom (some c) (progress.push (.literal c)) rest
termination_by text.length
decreasing_by
  all_goals first
    | exact Nat.lt_succ_of_le (length_le_of_readClassToken ‹_›)
    | (simp only [List.length_cons]; omega)

/-- A glob: the pieces that a text has to be made of. -/
structure Pattern where
  tokens : List Token

def Pattern.parse (text : Text) : Except GlobError Pattern :=
  match readFrom none {} text with
  | .error error => .error error
  | .ok progress =>
      if progress.groups.isEmpty then .ok ⟨progress.pieces.reverse⟩ else .error .unclosedAlternatives

end FaultContext.Glob
