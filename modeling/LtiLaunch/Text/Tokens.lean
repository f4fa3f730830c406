/-!
# Splitting text into tokens
-/

namespace LtiLaunch.Text

/-- Takes tokens off the text until nothing is left. A step that does not take anything is a
failure, as is one that finds no token. -/
def tokens? {τ : Type} (take? : List Char → Option (τ × List Char)) (cs : List Char) :
    Option (List τ) :=
  if cs.isEmpty then some []
  else
    match take? cs with
    | none => none
    | some (t, rest) =>
      if _h : rest.length < cs.length then (tokens? take? rest).map (t :: ·) else none
termination_by cs.length

end LtiLaunch.Text
