import SyntaxGraph.Json.Reader

/-!
# Skipping JSON values

A member with an unknown key may hold any value.  Such a value must be JSON, but nothing is made of
it, so it is held to less than one that is read: its numbers may be of any size and its strings may
hold halves of pairs.
-/

set_option autoImplicit false
namespace SyntaxGraph
namespace Json

/-- Skips an escape after its backslash. -/
def skipEscape (s : List Char) : Except Cause (List Char) :=
  match s with
  | [] => .error .ended
  | c :: rest =>
    if c = 'u' then
      match readHex rest with
      | .error e => .error e
      | .ok (_, rest) => .ok rest
    else
      match shortEscape? c with
      | some _ => .ok rest
      | none => .error .malformed

theorem length_of_skipEscape {s r : List Char} (h : skipEscape s = .ok r) :
    r.length < s.length := by
  unfold skipEscape at h
  split at h
  · simp at h
  · split at h
    · split at h
      · simp at h
      · rename_i hx
        have := length_of_readHex hx
        simp only [Except.ok.injEq] at h
        rw [← h]
        simp
        omega
    · split at h
      · simp only [Except.ok.injEq] at h
        simp [← h]
      · simp at h

/-- Skips a string literal after its opening quote. -/
def skipChars (s : List Char) : Except Cause (List Char) :=
  match s with
  | [] => .error .ended
  | c :: rest =>
    if c = '"' then .ok rest
    else if c = '\\' then
      match h : skipEscape rest with
      | .error e => .error e
      | .ok rest =>
        have := length_of_skipEscape h
        skipChars rest
    else if c.toNat < 0x20 then .error .malformed
    else skipChars rest
termination_by s.length
decreasing_by all_goals simp_all <;> omega

/-- Reads the colon after a key. -/
def readColon (s : List Char) : Except Cause (List Char) :=
  match skipBlanks s with
  | [] => .error .ended
  | ':' :: rest => .ok rest
  | _ => .error .malformed

mutual

/-- Skips a value.  The first argument bounds how often the three functions here call each other. -/
def skipValueWithin : Nat → List Char → Except Cause (List Char)
  | 0, _ => .error .ended
  | n + 1, s =>
    match skipBlanks s with
    | [] => .error .ended
    | c :: rest =>
      if c = '"' then skipChars rest
      else if c = '[' then
        match skipBlanks rest with
        | ']' :: rest => .ok rest
        | rest => skipItemsWithin n rest
      else if c = '\x7b' then
        match skipBlanks rest with
        | '\x7d' :: rest => .ok rest
        | rest => skipMembersWithin n rest
      else if c = 'n' then readWord ['u', 'l', 'l'] rest
      else if c = 't' then readWord ['r', 'u', 'e'] rest
      else if c = 'f' then readWord ['a', 'l', 's', 'e'] rest
      else if c = '-' ∨ isDigit c then
        match readNumber .malformed (c :: rest) with
        | .error e => .error e
        | .ok (_, r) => .ok r
      else .error .malformed

/-- Skips the values of an array up to and including its closing bracket. -/
def skipItemsWithin : Nat → List Char → Except Cause (List Char)
  | 0, _ => .error .ended
  | n + 1, s =>
    match skipValueWithin n s with
    | .error e => .error e
    | .ok s =>
      match skipBlanks s with
      | [] => .error .ended
      | ']' :: rest => .ok rest
      | ',' :: rest => skipItemsWithin n rest
      | _ => .error .malformed

/-- Skips the members of an object up to and including its closing brace. -/
def skipMembersWithin : Nat → List Char → Except Cause (List Char)
  | 0, _ => .error .ended
  | n + 1, s =>
    match skipBlanks s with
    | [] => .error .ended
    | '"' :: rest =>
      match skipChars rest with
      | .error e => .error e
      | .ok s =>
        match readColon s with
        | .error e => .error e
        | .ok s =>
          match skipValueWithin n s with
          | .error e => .error e
          | .ok s =>
            match skipBlanks s with
            | [] => .error .ended
            | '\x7d' :: rest => .ok rest
            | ',' :: rest => skipMembersWithin n rest
            | _ => .error .malformed
    | _ => .error .malformed

end

/-- Skips a value.  Every second call consumes a character, so the bound is never reached. -/
def skipValue (s : List Char) : Except Cause (List Char) :=
  skipValueWithin (2 * s.length + 2) s

end Json
end SyntaxGraph
