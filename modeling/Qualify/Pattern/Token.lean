/-!
# Tokens of patterns

A backslash binds the character behind it before anything else is read, so a pattern is first cut
into characters that stand alone and characters behind a backslash.
-/

namespace Qualify.Pattern

/-- A character of a pattern, alone or behind a backslash. -/
inductive Token where
  | plain (c : Char)
  | escaped (c : Char)
deriving DecidableEq

namespace Token

def chars : Token → List Char
  | plain c => [c]
  | escaped c => ['\\', c]

/-- The tokens of a pattern, which must not end in a lone backslash. -/
def ofChars : List Char → Option (List Token)
  | [] => some []
  | '\\' :: c :: cs => (ofChars cs).map (escaped c :: ·)
  | ['\\'] => none
  | c :: cs => (ofChars cs).map (plain c :: ·)

end Token

end Qualify.Pattern
