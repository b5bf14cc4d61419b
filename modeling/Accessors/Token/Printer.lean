import Accessors.Token.Basic

namespace Accessors

def Token.gap : Token → String
  | .punct _ .joint _ => ""
  | _ => " "

-- Only braces hold their content apart, and empty ones are still two characters apart.
def Delimiter.enclose (d : Delimiter) (content : String) : String :=
  match d with
  | .paren => "(" ++ content ++ ")"
  | .bracket => "[" ++ content ++ "]"
  | .brace => if content.isEmpty then "\x7b \x7d" else "\x7b " ++ content ++ " \x7d"

mutual

def Token.render : Token → String
  | .ident i => i.text
  | .punct c _ _ => c.toString
  | .literal text _ => text
  | .group d _ _ body => d.enclose (renderTokens body)

def renderTokens : List Token → String
  | [] => ""
  | t :: rest => t.render ++ (if rest.isEmpty then "" else t.gap) ++ renderTokens rest

end

end Accessors
