/-!
# Placeholders

A parameter of a SQL text is written `?`, or `:` and a name.  Servers know
question marks only, so a text with names is prepared with question marks in
their place; one that has both is refused.  Inside literals, quoted
identifiers and comments there are no placeholders, but there are in the
comments that give hints, which begin with `/*!` or `/*+`.

* `pieces` — a text as characters and placeholders;
* `positional?` — the text with question marks only.
-/

namespace SqlAccess.MySql.Placeholders

/-- Where in a text a character stands. -/
inductive Region where
  | plain
  /-- Behind a colon, which begins a placeholder if a name follows. -/
  | colon
  | name
  /-- In a literal up to `quote`, behind the character `previous`. -/
  | literal (quote previous : Char)
  /-- In an identifier in quotes of its own. -/
  | identifier
  | dash
  /-- Behind two dashes, which begin a comment if a blank follows. -/
  | dashes
  /-- In a comment up to the end of the line. -/
  | lineComment
  | slash
  /-- Behind a slash and a star, which begin a comment or a hint. -/
  | slashStar
  | comment
  /-- In a comment, behind a star. -/
  | commentStar
  deriving DecidableEq

/-- A part of a text. -/
inductive Piece where
  | char (c : Char)
  | positional
  | named
  deriving DecidableEq

/-- The character a part is written with, where names are not allowed. -/
def Piece.text : Piece → Char
  | char c => c
  | positional | named => '?'

/-- Whether a name may begin with a character. -/
def beginsName (c : Char) : Bool := c.isLower || c == '_'

/-- Whether a name may go on with a character. -/
def continuesName (c : Char) : Bool := beginsName c || c.isDigit

/-- Whether a character is a quote of literals. -/
def isQuote (c : Char) : Bool := c == '\'' || c == '"'

/-- The quote of identifiers. -/
def identifierQuote : Char := '\x60'

/-- Whether a character is an ASCII blank that does not end the line. -/
def isBlank (c : Char) : Bool := c == ' ' || c == '\t' || c == '\r' || c == '\x0c'

/-- The region behind a character in plain text. -/
def regionBehind (c : Char) : Region :=
  if isQuote c then .literal c c
  else if c == identifierQuote then .identifier
  else if c == '-' then .dash
  else if c == '#' then .lineComment
  else if c == '/' then .slash
  else .plain

/-- Goes on with the character behind a lone colon or a name, where only a
colon and the quotes of literals have a meaning. -/
def resume (c : Char) : Region × List Piece :=
  if c == ':' then (.colon, []) else (if isQuote c then .literal c c else .plain, [.char c])

/-- The region behind a character, and the parts that are complete with it. -/
def step : Region → Char → Region × List Piece
  | .plain, c =>
    if c == ':' then (.colon, [])
    else if c == '?' then (.plain, [.positional])
    else (regionBehind c, [.char c])
  | .colon, c =>
    if beginsName c then (.name, [.named])
    else ((resume c).1, .char ':' :: (resume c).2)
  | .name, c => if continuesName c then (.name, []) else resume c
  | .literal quote previous, c =>
    (if c == quote && previous != '\\' then .plain else .literal quote c, [.char c])
  | .identifier, c => (if c == identifierQuote then .plain else .identifier, [.char c])
  | .dash, c => (if c == '-' then .dashes else .plain, [.char c])
  | .dashes, c => (if isBlank c then .lineComment else .plain, [.char c])
  | .lineComment, c => (if c == '\n' then .plain else .lineComment, [.char c])
  | .slash, c => (if c == '*' then .slashStar else .plain, [.char c])
  | .slashStar, c => (if c == '!' || c == '+' then .plain else .comment, [.char c])
  | .comment, c => (if c == '*' then .commentStar else .comment, [.char c])
  | .commentStar, c => (if c == '/' then .plain else .comment, [.char c])

/-- The parts of the text that follows in a region. -/
def pieces : Region → List Char → List Piece
  | .colon, [] => [.char ':']
  | _, [] => []
  | r, c :: rest => (step r c).2 ++ pieces (step r c).1 rest

/-- A SQL text with question marks in place of names, unless it has both. -/
def positional? (sql : String) : Option String :=
  let ps := pieces .plain sql.toList
  if ps.contains .named && ps.contains .positional then none
  else some (String.ofList (ps.map Piece.text))

end SqlAccess.MySql.Placeholders
