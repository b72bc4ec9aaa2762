/-! Templates: text with expressions in braces. A brace that is never closed ends the
template with an error, after everything before it. -/
namespace ActionTree.Script.Template

inductive Piece where
  | text (text : String)
  | expression (expression : String)
  | unterminated
  deriving DecidableEq, Repr

/-- The pieces of a template; `inside` tells whether a brace is open, and `read` holds
what was read since the last brace, in reverse. -/
def piecesFrom (inside : Bool) (read : List Char) : List Char → List Piece
  | [] => if inside then [.unterminated] else [.text (String.ofList read.reverse)]
  | c :: rest =>
      if inside then
        if c = '}' then .expression (String.ofList read.reverse) :: piecesFrom false [] rest
        else piecesFrom true (c :: read) rest
      else if c = '{' then .text (String.ofList read.reverse) :: piecesFrom true [] rest
      else piecesFrom false (c :: read) rest

def pieces (template : String) : List Piece := piecesFrom false [] template.toList

end ActionTree.Script.Template
