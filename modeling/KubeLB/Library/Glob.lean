import Mathlib.Data.List.Basic

/-!
Contract: shell patterns as Go's `path.Match` reads them.

Owns: the scan for chunks between stars, the match of one chunk, character
classes and escapes, and the report of a malformed pattern.

Does not own: texts beyond ASCII. The model goes by characters, while a star also
skips single bytes of a longer character.

The functions walk the pattern with a count of steps; the length of the pattern
is always enough.
-/

set_option autoImplicit false

namespace KubeLB.Library.Glob

/-- `ErrBadPattern`. -/
inductive BadPattern where
  | malformed
  deriving DecidableEq, Repr

/-- `getEsc`: one possibly escaped character of a class. At least one character
must follow it. -/
def getEsc : List Char → Except BadPattern (Char × List Char)
  | [] => .error .malformed
  | '-' :: _ => .error .malformed
  | ']' :: _ => .error .malformed
  | ['\\'] => .error .malformed
  | '\\' :: escaped :: rest =>
      if rest.isEmpty then .error .malformed else .ok (escaped, rest)
  | char :: rest => if rest.isEmpty then .error .malformed else .ok (char, rest)

/-- The range loop of a character class: whether `char` is in it, and what
follows the closing bracket. `first` is true before the first range. -/
def matchRanges (char : Option Char) :
    Nat → Bool → Bool → List Char → Except BadPattern (Bool × List Char)
  | 0, _, _, _ => .error .malformed
  | steps + 1, first, found, chunk =>
      if ¬first ∧ chunk.head? = some ']' then .ok (found, chunk.tail)
      else
        match getEsc chunk with
        | .error error => .error error
        | .ok (low, rest) =>
            let highAndRest :=
              if rest.head? = some '-' then getEsc rest.tail else .ok (low, rest)
            match highAndRest with
            | .error error => .error error
            | .ok (high, rest) =>
                let inRange := match char with
                  | none => false
                  | some char => decide (low ≤ char ∧ char ≤ high)
                matchRanges char steps false (found || inRange) rest

/-- `matchChunk`: `some rest` when the chunk matches a start of the text. After a
mismatch (`text = none`) the rest of the chunk is only checked for its form. -/
def matchChunk : Nat → List Char → Option (List Char) →
    Except BadPattern (Option (List Char))
  | 0, _, _ => .error .malformed
  | steps + 1, chunk, text =>
      match chunk with
      | [] => .ok text
      | head :: chunk =>
          -- An exhausted text is a mismatch, whatever the chunk asks for.
          let text := if text = some [] then none else text
          match head with
          | '[' =>
              let negated := decide (chunk.head? = some '^')
              let ranges := if negated then chunk.tail else chunk
              match matchRanges (text.bind List.head?) (ranges.length + 1) true false ranges with
              | .error error => .error error
              | .ok (found, chunk) =>
                  matchChunk steps chunk
                    (if found = negated then none else text.map List.tail)
          | '?' =>
              matchChunk steps chunk
                (if text.bind List.head? = some '/' then none else text.map List.tail)
          | '\\' =>
              match chunk with
              | [] => .error .malformed
              | escaped :: chunk =>
                  matchChunk steps chunk
                    (if text.bind List.head? = some escaped then text.map List.tail else none)
          | char =>
              matchChunk steps chunk
                (if text.bind List.head? = some char then text.map List.tail else none)

/-- The part of `scanChunk` after the stars: the chunk up to the next star that is
not in a class, and the rest. -/
def scanPlain : Bool → List Char → List Char × List Char
  | _, [] => ([], [])
  | _, ['\\'] => (['\\'], [])
  | inRange, '\\' :: escaped :: rest =>
      let scanned := scanPlain inRange rest
      ('\\' :: escaped :: scanned.1, scanned.2)
  | inRange, head :: rest =>
      if head = '*' ∧ ¬inRange then ([], head :: rest)
      else
        let scanned := scanPlain
          (if head = '[' then true else if head = ']' then false else inRange) rest
        (head :: scanned.1, scanned.2)

/-- `scanChunk`: whether stars came first, the chunk, and the rest. -/
def scanChunk (pattern : List Char) : Bool × List Char × List Char :=
  let scanned := scanPlain false (pattern.dropWhile (· = '*'))
  (pattern.head? = some '*', scanned.1, scanned.2)

/-- The match attempts after a star: skip characters other than a slash. -/
def matchSkipping (chunk : List Char) (last : Bool) :
    List Char → Except BadPattern (Option (List Char))
  | [] => .ok none
  | skipped :: text =>
      if skipped = '/' then .ok none
      else
        match matchChunk (chunk.length + 1) chunk (some text) with
        | .error error => .error error
        | .ok (some rest) =>
            if last ∧ rest ≠ [] then matchSkipping chunk last text else .ok (some rest)
        | .ok none => matchSkipping chunk last text

/-- The check of the remaining pattern before a mismatch is returned. -/
def checkRemaining : Nat → List Char → Except BadPattern Bool
  | 0, _ => .ok false
  | steps + 1, pattern =>
      if pattern.isEmpty then .ok false
      else
        let (_, chunk, rest) := scanChunk pattern
        match matchChunk (chunk.length + 1) chunk none with
        | .error error => .error error
        | .ok _ => checkRemaining steps rest

/-- The loop of `path.Match`. A last chunk must use up the name; the attempt at the
current position and those after a star have the same rule. -/
def matchPattern : Nat → List Char → List Char → Except BadPattern Bool
  | 0, _, name => .ok name.isEmpty
  | steps + 1, pattern, name =>
      if pattern.isEmpty then .ok name.isEmpty
      else
        let (star, chunk, rest) := scanChunk pattern
        if star ∧ chunk.isEmpty then .ok (decide ('/' ∉ name))
        else
          match matchChunk (chunk.length + 1) chunk (some name) with
          | .error error => .error error
          | .ok here =>
              match here.filter (fun left => left.isEmpty || !rest.isEmpty) with
              | some left => matchPattern steps rest left
              | none =>
                  match if star then matchSkipping chunk rest.isEmpty name else .ok none with
                  | .error error => .error error
                  | .ok (some left) => matchPattern steps rest left
                  | .ok none => checkRemaining (rest.length + 1) rest

/-- `path.Match(pattern, name)`. -/
def pathMatch (pattern name : String) : Except BadPattern Bool :=
  matchPattern (pattern.length + 1) pattern.toList name.toList

end KubeLB.Library.Glob
