/-
Tokens of Go source text.

A token knows its place in the text and what lies between it and the token
before it: whether a line ended there, and the comments. Line ends are kept as a
property of the token behind them, since a line end can close a statement in
some places and is a blank in all others; which it is only the grammar knows.
-/

namespace RouteDoc.Go

/-- A place in a text: the number of bytes and of line feeds before it. -/
structure Mark where
  offset : Nat
  row : Nat
  deriving DecidableEq, Repr

def Mark.origin : Mark := ⟨0, 0⟩

/-- The place behind one more byte. -/
def Mark.step (m : Mark) (b : UInt8) : Mark :=
  ⟨m.offset + 1, if b == 0x0A then m.row + 1 else m.row⟩

/-- The place behind more bytes. -/
def Mark.over (m : Mark) (text : List UInt8) : Mark := text.foldl Mark.step m

inductive Keyword where
  | break_ | case_ | chan_ | const_ | continue_ | default_ | defer_ | else_ | fallthrough_ | for_
  | func_ | go_ | goto_ | if_ | import_ | interface_ | map_ | package_ | range_ | return_ | select_
  | struct_ | switch_ | type_ | var_
  deriving DecidableEq, Repr

def Keyword.table : List (String × Keyword) :=
  [("break", .break_), ("case", .case_), ("chan", .chan_), ("const", .const_),
    ("continue", .continue_), ("default", .default_), ("defer", .defer_), ("else", .else_),
    ("fallthrough", .fallthrough_), ("for", .for_), ("func", .func_), ("go", .go_),
    ("goto", .goto_), ("if", .if_), ("import", .import_), ("interface", .interface_),
    ("map", .map_), ("package", .package_), ("range", .range_), ("return", .return_),
    ("select", .select_), ("struct", .struct_), ("switch", .switch_), ("type", .type_),
    ("var", .var_)]

/-- Operators and punctuation. -/
inductive Sign where
  | plus | minus | star | slash | percent | amp | pipe | caret | shiftLeft | shiftRight | ampCaret
  | plusEq | minusEq | starEq | slashEq | percentEq | ampEq | pipeEq | caretEq | shiftLeftEq
  | shiftRightEq | ampCaretEq
  | andAnd | orOr | arrow | increment | decrement
  | equal | less | greater | assign | bang | notEqual | lessEq | greaterEq | define | ellipsis
  | openParen | closeParen | openBracket | closeBracket | openBrace | closeBrace
  | comma | semicolon | dot | colon | tilde
  deriving DecidableEq, Repr

/-- The signs, longer ones before their beginnings. -/
def Sign.table : List (String × Sign) :=
  [("<<=", .shiftLeftEq), (">>=", .shiftRightEq), ("&^=", .ampCaretEq), ("...", .ellipsis),
    ("+=", .plusEq), ("-=", .minusEq), ("*=", .starEq), ("/=", .slashEq), ("%=", .percentEq),
    ("&=", .ampEq), ("|=", .pipeEq), ("^=", .caretEq), ("<<", .shiftLeft), (">>", .shiftRight),
    ("&^", .ampCaret), ("&&", .andAnd), ("||", .orOr), ("<-", .arrow), ("++", .increment),
    ("--", .decrement), ("==", .equal), ("!=", .notEqual), ("<=", .lessEq), (">=", .greaterEq),
    (":=", .define),
    ("+", .plus), ("-", .minus), ("*", .star), ("/", .slash), ("%", .percent), ("&", .amp),
    ("|", .pipe), ("^", .caret), ("<", .less), (">", .greater), ("=", .assign), ("!", .bang),
    ("(", .openParen), (")", .closeParen), ("[", .openBracket), ("]", .closeBracket),
    ("\x7b", .openBrace), ("\x7d", .closeBrace), (",", .comma), (";", .semicolon), (".", .dot),
    (":", .colon), ("~", .tilde)]

inductive TokenKind where
  | name
  | number
  | text
  | rune
  | word (k : Keyword)
  | sign (s : Sign)
  deriving DecidableEq, Repr

structure Comment where
  start : Mark
  stop : Mark
  text : List UInt8
  deriving DecidableEq, Repr

/-- What lies between two tokens: where the earlier one stopped, whether a line ended since then
outside of comments, and the comments. -/
structure Gap where
  from_ : Mark
  newline : Bool
  comments : List Comment
  deriving DecidableEq, Repr

structure Token where
  kind : TokenKind
  text : List UInt8
  start : Mark
  stop : Mark
  gap : Gap
  deriving DecidableEq, Repr

/-- Whether a line ended before the token. -/
def Token.newline (t : Token) : Bool := t.gap.newline

end RouteDoc.Go
