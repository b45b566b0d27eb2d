/-!
# Markup

A message for a terminal may hold tags such as `[bold]`, which turn styles on and off.  A backslash
in front of a bracket takes its meaning away, and of two backslashes in front of a tag only one is
shown.  Diagnostics are shown without styles, so `Markup.render` drops the tags; `Markup.escape`
puts the backslashes in front of the brackets of a message that has no tags.
-/

namespace RequestPipeline.Terminal.Markup

/-- Whether a bracket is closed before another one opens. -/
def closes : List Char → Bool
  | [] => false
  | c :: rest => if c = ']' then true else if c = '[' then false else closes rest

/-- Whether a tag follows an opening bracket. -/
def opensTag : List Char → Bool
  | [] => false
  | c :: rest => (c.isLower || c == '#' || c == '/' || c == '@') && closes rest

def slashes (n : Nat) : List Char := List.replicate n '\\'

/-- Escapes tags, after a number of backslashes. -/
def escapeAfter : Nat → List Char → List Char
  | _, [] => []
  | n, '\\' :: rest => '\\' :: escapeAfter (n + 1) rest
  | n, '[' :: rest =>
    let mark := if opensTag rest then slashes (n + 1) else []
    mark ++ '[' :: escapeAfter 0 rest
  | _, c :: rest => c :: escapeAfter 0 rest

/-- A single backslash at the end is doubled, lest it escape what follows. -/
def closeEnd (s : List Char) : List Char :=
  match s.reverse with
  | ['\\'] => s ++ ['\\']
  | '\\' :: c :: _ => if c = '\\' then s else s ++ ['\\']
  | _ => s

/-- A message in which no bracket has a meaning. -/
def escape (s : List Char) : List Char := closeEnd (escapeAfter 0 s)

/-- What is shown after a number of backslashes, which are not shown yet; `inTag` says that the text
up to the next closing bracket belongs to a tag. -/
def renderAfter : (inTag : Bool) → Nat → List Char → List Char
  | _, n, [] => slashes n
  | true, _, c :: rest => renderAfter (c != ']') 0 rest
  | false, n, '\\' :: rest => renderAfter false (n + 1) rest
  | false, n, '[' :: rest =>
    if opensTag rest then
      if n % 2 = 1 then slashes (n / 2) ++ '[' :: renderAfter false 0 rest
      else slashes (n / 2) ++ renderAfter true 0 rest
    else slashes (n - 1) ++ '[' :: renderAfter false 0 rest
  | false, n, c :: rest => slashes n ++ c :: renderAfter false 0 rest

/-- What is shown of a message with tags. -/
def render (s : List Char) : List Char := renderAfter false 0 s

end RequestPipeline.Terminal.Markup
