/-!
# Patterns with wildcards

In a pattern `*` stands for any characters and `?` for one; all others stand for themselves.
-/

namespace PredicateLang.Glob

/-- Has the whole text the form of the pattern? -/
def isMatch : (pattern text : List Char) → Bool
  | [], [] => true
  | [], _ :: _ => false
  | '*' :: pattern, [] => isMatch pattern []
  | '*' :: pattern, c :: text => isMatch pattern (c :: text) || isMatch ('*' :: pattern) text
  | _ :: _, [] => false
  | p :: pattern, c :: text => (p = '?' || p = c) && isMatch pattern text

end PredicateLang.Glob
