import FaultContext.Glob.Pattern
import FaultContext.Text.Utf8

/-!
# Matching globs

A glob is matched against the bytes of a path, all of them. The single wild cards and the classes
stand for one byte each and match slashes as well; a class that names a character beyond ASCII names
its bytes. A path that ends in a dot counts as one without a name, which no glob finds that asks for a
name or for the ending of one.
-/

namespace FaultContext.Glob

set_option autoImplicit false

/-- All rests of some bytes, from the whole to the empty one. -/
def restsOf : List UInt8 → List (List UInt8)
  | [] => [[]]
  | byte :: rest => (byte :: rest) :: restsOf rest

/-- The rests of some bytes behind each of their slashes. -/
def behindSlashes : List UInt8 → List (List UInt8)
  | [] => []
  | byte :: rest => if byte = 0x2f then rest :: behindSlashes rest else behindSlashes rest

/-- The ranges of bytes that a range of characters comes to: the last byte of the first character up
to the first byte of the last one, and the other bytes by themselves. -/
def byteRanges (first last : Char) : List (UInt8 × UInt8) :=
  let low := String.utf8EncodeChar first
  let high := String.utf8EncodeChar last
  if first = last then low.map fun byte => (byte, byte)
  else
    low.dropLast.map (fun byte => (byte, byte)) ++
      [(low.getLast?.getD 0, high.head?.getD 0)] ++ high.tail.map fun byte => (byte, byte)

def classMatches (negated : Bool) (ranges : List (Char × Char)) (byte : UInt8) : Bool :=
  (ranges.flatMap fun range => byteRanges range.1 range.2).any
    (fun range => range.1 ≤ byte && byte ≤ range.2) != negated

mutual

/-- Whether a piece stands for nothing at all, as an empty group does. -/
def Token.isVoid : Token → Bool
  | .alternatives branches => allVoid branches
  | _ => false

def branchVoid : List Token → Bool
  | [] => true
  | token :: tokens => token.isVoid && branchVoid tokens

def allVoid : List (List Token) → Bool
  | [] => true
  | branch :: branches => branchVoid branch && allVoid branches

end

mutual

/-- Whether some bytes begin with what the piece stands for and go on as `next` asks. -/
def Token.accepts (next : List UInt8 → Bool) : Token → List UInt8 → Bool
  | .literal c, bytes =>
      let own := String.utf8EncodeChar c
      own.isPrefixOf bytes && next (bytes.drop own.length)
  | .anyOne, bytes => !bytes.isEmpty && next bytes.tail
  | .anyRun, bytes => (restsOf bytes).any next
  | .recursiveStart, bytes => next bytes || (behindSlashes bytes).any next
  | .recursiveMiddle, bytes => bytes.head? == some 0x2f && (behindSlashes bytes).any next
  | .recursiveEnd, bytes => bytes.head? == some 0x2f && (restsOf bytes.tail).any next
  | .charClass negated ranges, bytes => bytes.head?.any (classMatches negated ranges) && next bytes.tail
  | .alternatives branches, bytes =>
      if allVoid branches then next bytes else acceptsAny next branches bytes

def acceptsAll (next : List UInt8 → Bool) : List Token → List UInt8 → Bool
  | [], bytes => next bytes
  | token :: tokens, bytes => token.accepts (acceptsAll next tokens) bytes

/-- The same for a choice of branches; those that stand for nothing are no choice. -/
def acceptsAny (next : List UInt8 → Bool) : List (List Token) → List UInt8 → Bool
  | [], _ => false
  | branch :: branches, bytes =>
      (!branchVoid branch && acceptsAll next branch bytes) || acceptsAny next branches bytes

end

def Token.literal? : Token → Option Char
  | .literal c => some c
  | _ => none

/-- Whether the pieces end with the dot that begins an ending. -/
def endInDot (tokens : List Token) : Bool := tokens.getLast?.bind Token.literal? == some '.'

/-- Whether the pieces ask for the name of a file or for its ending, when they come to a path that ends
in a dot: a bare name in any directory, any name with a certain ending, and every other glob that ends
in one. A glob that spells out the path or just its last part does not. -/
def asksForName (tokens : List Token) : Bool :=
  let (anywhere, body) :=
    match tokens with
    | .recursiveStart :: body => (true, body)
    | _ => (false, tokens)
  match body with
  | .anyRun :: rest =>
      match rest.mapM Token.literal? with
      | some text => text == ['.']
      | none => endInDot tokens
  | _ =>
      match body.mapM Token.literal? with
      | some text => anywhere && !text.contains '/'
      | none => endInDot tokens

/-- Whether a path matches the glob. A glob of two stars alone matches every path. -/
def Pattern.matches (pattern : Pattern) (path : Text) : Bool :=
  match pattern.tokens with
  | [.recursiveStart] => true
  | tokens =>
      if path.getLast? == some '.' && asksForName tokens then false
      else acceptsAll List.isEmpty tokens (Text.encodeUtf8 path)

end FaultContext.Glob
