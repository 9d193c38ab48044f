import BillOfMaterials.Sql.Lexer
import BillOfMaterials.Sql.Syntax

/-!
# Reading SQL statements

`Sql.nextStatement` reads one statement from lexemes, as the database reads a script: one
statement at a time, each ended by `;` or the end of the text. A failure names the first
lexeme that does not fit, `near "…": syntax error`, or is `incomplete input` at the end.

Expressions follow the usual precedence, loosest first: `OR`; `AND`; `NOT`; `=`, `!=`, `IS`,
`IN`, `LIKE`, `GLOB`, `BETWEEN`, `ISNULL`, `NOTNULL`; `<`, `<=`, `>`, `>=`; `&`, `|`, `<<`,
`>>`; `+`, `-`; `*`, `/`, `%`; `||`; `COLLATE`; then the unary `-`, `+` and `~`. A minus
before a number literal is part of the literal.

What the database refuses while reading a table's definition is refused here too: a column
named twice, a second primary key, an unknown collation, `AUTOINCREMENT` away from an integer
primary key, and a default that is not constant.
-/

namespace BillOfMaterials.Sql

/-- A parser over lexemes. -/
abbrev Parser (α : Type) := List Lexeme → Except SqlError (α × List Lexeme)

/-- The syntax error at the first of the lexemes left; characters that made no token are
their own failure. -/
def syntaxError : List Lexeme → SqlError
  | [] => logicError "incomplete input"
  | l :: _ =>
    match l.token with
    | .illegal e => e
    | _ => logicError ("near \"" ++ l.text ++ "\": syntax error")

/-- Whether a lexeme is a keyword. -/
def Lexeme.isWord (l : Lexeme) (k : String) : Bool :=
  match l.token with
  | .word w => upper w == k
  | _ => false

/-- Whether a lexeme is a symbol. -/
def Lexeme.isSym (l : Lexeme) (s : String) : Bool :=
  match l.token with
  | .sym t => t == s
  | _ => false

/-- Whether the next lexeme is a keyword. -/
def nextIs (ts : List Lexeme) (k : String) : Bool := (ts.head?.map (·.isWord k)).getD false

/-- Whether the next lexeme is a symbol. -/
def nextSym (ts : List Lexeme) (s : String) : Bool := (ts.head?.map (·.isSym s)).getD false

/-- Takes a keyword. -/
def keyword (k : String) : Parser Unit
  | l :: ts => if l.isWord k then .ok ((), ts) else .error (syntaxError (l :: ts))
  | [] => .error (syntaxError [])

/-- Takes a symbol. -/
def symbol (s : String) : Parser Unit
  | l :: ts => if l.isSym s then .ok ((), ts) else .error (syntaxError (l :: ts))
  | [] => .error (syntaxError [])

/-- Takes the keywords in order. -/
def keywords : List String → Parser Unit
  | [] => fun ts => .ok ((), ts)
  | k :: ks => fun ts => do
    let ((), ts) ← keyword k ts
    keywords ks ts

/-- Takes a keyword if it is next. -/
def optional (k : String) (ts : List Lexeme) : Bool × List Lexeme :=
  if nextIs ts k then (true, ts.drop 1) else (false, ts)

/-- Keywords that cannot stand as names. -/
def reserved : List String :=
  ["ADD", "ALL", "ALTER", "AND", "AS", "AUTOINCREMENT", "BETWEEN", "CASE", "CHECK", "COLLATE",
    "COMMIT", "CONSTRAINT", "CREATE", "CROSS", "DEFAULT", "DEFERRABLE", "DELETE", "DISTINCT",
    "DROP", "ELSE", "ESCAPE", "EXCEPT", "EXISTS", "FOREIGN", "FROM", "FULL", "GROUP", "HAVING",
    "IN", "INDEX", "INNER", "INSERT", "INTERSECT", "INTO", "IS", "ISNULL", "JOIN", "LEFT",
    "LIMIT", "NATURAL", "NOT", "NOTHING", "NOTNULL", "NULL", "ON", "OR", "ORDER", "OUTER",
    "PRIMARY", "REFERENCES", "RETURNING", "RIGHT", "SELECT", "SET", "TABLE", "THEN", "TO",
    "TRANSACTION", "UNION", "UNIQUE", "UPDATE", "USING", "VALUES", "WHEN", "WHERE"]

/-- Takes a name: a word that is not reserved, a quoted name, or a string. -/
def name : Parser String
  | l :: ts =>
    match l.token with
    | .word w => if reserved.contains (upper w) then .error (syntaxError (l :: ts)) else .ok (w, ts)
    | .quotedName n => .ok (n, ts)
    | .text t => .ok (t, ts)
    | _ => .error (syntaxError (l :: ts))
  | [] => .error (syntaxError [])

/-- Takes a name with an optional schema before it; answers whether the schema is the
temporary one, and the name. -/
def qualifiedName : Parser (Bool × String)
  | ts => do
    let (n, ts) ← name ts
    if nextSym ts "." then
      let (m, ts) ← name (ts.drop 1)
      pure ((sameName n "temp", m), ts)
    else pure ((false, n), ts)

/-- The value of an integer literal, negated when `neg`: an integer when it fits in 64 bits,
else the nearest real. -/
def integerLiteral (neg : Bool) (digits : String) : Value :=
  let n : Nat := digits.foldl (fun n d => n * 10 + (d.toNat - '0'.toNat)) 0
  let v : Int := if neg then -(n : Int) else n
  if fits v then .int v
  else
    let r := (readReal digits).1
    .real (if neg then r.neg else r)

/-- The value of a hexadecimal literal: its 64 bits as a signed integer; more than sixteen
significant digits are refused. -/
def hexLiteral (neg : Bool) (digits : String) : Except SqlError Value :=
  let sig := digits.toList.dropWhile (· = '0')
  if sig.length > 16 then
    .error (logicError ("hex literal too big: " ++ (if neg then "-" else "") ++ "0x" ++ digits))
  else
    let u : Nat := sig.foldl (fun n d => n * 16 + (hexValue? d).getD 0) 0
    let v : Int := if u ≥ 0x8000000000000000 then (u : Int) - 0x10000000000000000 else u
    .ok (.int (if neg then (if v = minInt then v else -v) else v))

/-- The levels of the expression grammar, loosest first. -/
inductive Level where
  | or
  | and
  | not
  | equality
  | relational
  | bits
  | additive
  | multiplicative
  | concat
  | collate
  | unary
  deriving DecidableEq

/-- The level of the operands of a level's binary operators. -/
def Level.operand : Level → Level
  | .or => .and
  | .and => .not
  | .relational => .bits
  | .bits => .additive
  | .additive => .multiplicative
  | .multiplicative => .concat
  | .concat => .collate
  | l => l

/-- The binary operator a lexeme stands for at a level, if any. -/
def binaryAt (lvl : Level) (l : Lexeme) : Option (Expr → Expr → Expr) :=
  match lvl with
  | .or => if l.isWord "OR" then some .or else none
  | .and => if l.isWord "AND" then some .and else none
  | .relational =>
    if l.isSym "<" then some (.cmp .lt) else if l.isSym "<=" then some (.cmp .le)
    else if l.isSym ">" then some (.cmp .gt) else if l.isSym ">=" then some (.cmp .ge)
    else none
  | .bits =>
    if l.isSym "&" then some (.arith .bitAnd) else if l.isSym "|" then some (.arith .bitOr)
    else if l.isSym "<<" then some (.arith .shl) else if l.isSym ">>" then some (.arith .shr)
    else none
  | .additive =>
    if l.isSym "+" then some (.arith .add) else if l.isSym "-" then some (.arith .sub) else none
  | .multiplicative =>
    if l.isSym "*" then some (.arith .mul) else if l.isSym "/" then some (.arith .div)
    else if l.isSym "%" then some (.arith .rem) else none
  | .concat =>
    if l.isSym "||" then some (.arith .concat)
    else if l.isSym "->" then some fun a b => .call "->" [a, b] false
    else if l.isSym "->>" then some fun a b => .call "->>" [a, b] false
    else none
  | _ => none

/-- The words of a type name, up to a size in parentheses, which is skipped. -/
def typeName : Nat → Parser (List String)
  | 0, ts => .ok ([], ts)
  | fuel + 1, ts =>
    match ts with
    | l :: rest =>
      match l.token with
      | .word w =>
        if reserved.contains (upper w) || ["GENERATED"].contains (upper w) then .ok ([], ts)
        else do
          let (ws, ts) ← typeName fuel rest
          pure (upper w :: ws, ts)
      | .quotedName w | .text w => do
        let (ws, ts) ← typeName fuel rest
        pure (upper w :: ws, ts)
      | _ =>
        if l.isSym "(" then
          let after := rest.dropWhile fun l => !l.isSym ")"
          match after with
          | _ :: more => .ok ([], more)
          | [] => .error (syntaxError [])
        else .ok ([], ts)
    | [] => .ok ([], [])

/-- The action of a `RAISE`. -/
def raiseActionOf? (l : Lexeme) : Option RaiseAction :=
  if l.isWord "IGNORE" then some .ignore else if l.isWord "ROLLBACK" then some .rollback
  else if l.isWord "ABORT" then some .abort else if l.isWord "FAIL" then some .fail else none

/-- Names separated by commas, up to a closing parenthesis, which is taken. -/
def nameList : Nat → Parser (List String)
  | 0, ts => .error (syntaxError ts)
  | fuel + 1, ts => do
    let (n, ts) ← name ts
    if nextSym ts "," then
      let (ns, ts) ← nameList fuel (ts.drop 1)
      pure (n :: ns, ts)
    else
      let ((), ts) ← symbol ")" ts
      pure ([n], ts)

/-- A column reference after its first name: `name`, `table.name` or `schema.table.name`. -/
def columnRef (first : String) (quoted : Bool) : Parser Expr
  | ts =>
    if nextSym ts "." then do
      let (second, ts) ← name (ts.drop 1)
      if nextSym ts "." then do
        let (third, ts) ← name (ts.drop 1)
        pure (.column (some second) third false, ts)
      else pure (.column (some first) second false, ts)
    else .ok (.column none first quoted, ts)

/-- Whether a query starts next: `SELECT`, `VALUES` or `WITH`. -/
def queryNext (ts : List Lexeme) : Bool := nextIs ts "SELECT" || nextIs ts "VALUES" || nextIs ts "WITH"

/-- A compound operator, if one is next. -/
def compoundOp? (ts : List Lexeme) : Option (CompoundOp × List Lexeme) :=
  if nextIs ts "UNION" then
    if nextIs (ts.drop 1) "ALL" then some (.unionAll, ts.drop 2) else some (.union, ts.drop 1)
  else if nextIs ts "INTERSECT" then some (.intersect, ts.drop 1)
  else if nextIs ts "EXCEPT" then some (.except, ts.drop 1)
  else none

/-- The keywords that may stand before `JOIN`. -/
def joinWords : List String := ["NATURAL", "LEFT", "RIGHT", "FULL", "OUTER", "INNER", "CROSS"]

/-- A join operator, if one is next: `,`, or `JOIN` after up to three join keywords. Answers
the kind of join and whether it is natural; keywords that make no kind of join fail. -/
def joinOp? (ts : List Lexeme) : Option (Except SqlError ((JoinKind × Bool) × List Lexeme)) :=
  if nextSym ts "," then some (.ok ((.inner, false), ts.drop 1))
  else
    let words := (ts.take 3).takeWhile fun l => joinWords.any l.isWord
    let rest := ts.drop words.length
    if words.isEmpty && !nextIs ts "JOIN" then none
    else if !nextIs rest "JOIN" then some (.error (syntaxError rest))
    else
      let has (k : String) : Bool := words.any (·.isWord k)
      let left := has "LEFT" || has "FULL"
      let right := has "RIGHT" || has "FULL"
      let bad := (has "OUTER" && !left && !right) || ((has "INNER" || has "CROSS") && (left || right)) ||
        (has "INNER" && has "CROSS") || words.length > (words.map fun l => upper l.text).eraseDups.length
      if bad then
        some (.error (logicError ("unknown join type: " ++ " ".intercalate (words.map (·.text)))))
      else
        let kind := if left && right then JoinKind.full else if left then .left else if right then .right else .inner
        some (.ok ((kind, has "NATURAL"), rest.drop 1))

/-- An optional alias after a table or a query in `FROM`: `AS name`, or a name that is not a
keyword. -/
def tableAlias : Parser (Option String)
  | ts =>
    if nextIs ts "AS" then do
      let (a, ts) ← name (ts.drop 1)
      pure (some a, ts)
    else
      match ts with
      | ⟨.word w, _, _, _⟩ :: more =>
        if reserved.contains (upper w) || joinWords.contains (upper w) then .ok (none, ts) else .ok (some w, more)
      | ⟨.quotedName w, _, _, _⟩ :: more | ⟨.text w, _, _, _⟩ :: more => .ok (some w, more)
      | _ => .ok (none, ts)

/-- An optional alias after an item of a `SELECT` list: `AS name`, or a name that is not a
keyword. -/
def itemAlias : Parser (Option String)
  | ts =>
    if nextIs ts "AS" then do
      let (a, ts) ← name (ts.drop 1)
      pure (some a, ts)
    else
      match ts with
      | ⟨.word w, _, _, _⟩ :: more =>
        if reserved.contains (upper w) then .ok (none, ts) else .ok (some w, more)
      | ⟨.quotedName w, _, _, _⟩ :: more | ⟨.text w, _, _, _⟩ :: more => .ok (some w, more)
      | _ => .ok (none, ts)

/-- The `ORDER BY` and `LIMIT` of a query: the sort terms, the limit and the offset. -/
abbrev QueryTail := List (Expr × Bool × Option Bool) × Option Expr × Option Expr

/-- The source between two offsets, blanks at either end dropped. -/
def spanText (src : List Char) (start stop : Nat) : String :=
  let cs := (src.drop start).take (stop - start)
  String.ofList ((cs.dropWhile isBlank).reverse.dropWhile isBlank).reverse

/-- The text of the lexemes taken from `ts` when `rest` is left. -/
def takenText (src : List Char) (ts rest : List Lexeme) : String :=
  match ts.head?, (ts.take (ts.length - rest.length)).getLast? with
  | some a, some b => spanText src a.start b.stop
  | _, _ => ""

/-- The failure of a second name among the queries of a `WITH`. -/
def duplicateCte (ctes : Ctes) : Option SqlError :=
  (ctes.zipIdx.find? fun ((n, _), i) => (ctes.take i).any fun (m, _) => sameName m n).map
    fun ((n, _), _) => logicError ("duplicate WITH table name: " ++ n)

mutual

/-- Parses an expression at a level; `fuel` bounds the depth. `src` is the text parsed, which
the items of queries are named by. -/
def exprAt (src : List Char) : Nat → Level → Parser Expr
  | 0, _, ts => .error (syntaxError ts)
  | fuel + 1, lvl, ts =>
    match lvl with
    | .not =>
      if nextIs ts "NOT" then do
        let (e, ts) ← exprAt src fuel .not (ts.drop 1)
        pure (.not e, ts)
      else exprAt src fuel .equality ts
    | .equality => do
      let (a, ts) ← exprAt src fuel .relational ts
      equalityTail src fuel a ts
    | .collate => do
      let (a, ts) ← exprAt src fuel .unary ts
      collateTail fuel a ts
    | .unary =>
      match ts with
      | l :: rest =>
        if l.isSym "-" then
          match rest with
          | ⟨.integer d, _, _, _⟩ :: more => .ok (.literal (integerLiteral true d), more)
          | ⟨.float f, _, _, _⟩ :: more => .ok (.literal (.real (readReal f).1.neg), more)
          | ⟨.hex h, _, _, _⟩ :: more => do pure (.literal (← hexLiteral true h), more)
          | _ => do
            let (e, ts) ← exprAt src fuel .unary rest
            pure (.neg e, ts)
        else if l.isSym "+" then do
          let (e, ts) ← exprAt src fuel .unary rest
          pure (.pos e, ts)
        else if l.isSym "~" then do
          let (e, ts) ← exprAt src fuel .unary rest
          pure (.bitNot e, ts)
        else term src fuel ts
      | [] => .error (syntaxError [])
    | _ => do
      let (a, ts) ← exprAt src fuel lvl.operand ts
      binaryTail src fuel lvl a ts

/-- The binary operators of a level after its first operand, grouped to the left. -/
def binaryTail (src : List Char) : Nat → Level → Expr → Parser Expr
  | 0, _, _, ts => .error (syntaxError ts)
  | fuel + 1, lvl, a, ts =>
    match ts with
    | l :: rest =>
      match binaryAt lvl l with
      | some combine => do
        let (b, ts) ← exprAt src fuel lvl.operand rest
        binaryTail src fuel lvl (combine a b) ts
      | none => .ok (a, ts)
    | [] => .ok (a, [])

/-- `COLLATE name` after an operand, any number of times. -/
def collateTail : Nat → Expr → Parser Expr
  | 0, _, ts => .error (syntaxError ts)
  | fuel + 1, a, ts =>
    if nextIs ts "COLLATE" then do
      let (n, ts) ← name (ts.drop 1)
      collateTail fuel (.collate a n) ts
    else .ok (a, ts)

/-- The operators of the equality level after the first operand: `=`, `==`, `!=`, `<>`,
`IS [NOT] [DISTINCT FROM]`, `ISNULL`, `NOTNULL`, `NOT NULL`, and `[NOT] IN`, `LIKE`, `GLOB`
and `BETWEEN`. -/
def equalityTail (src : List Char) : Nat → Expr → Parser Expr
  | 0, _, ts => .error (syntaxError ts)
  | fuel + 1, a, ts =>
    match ts with
    | l :: rest =>
      if l.isSym "=" || l.isSym "==" || l.isSym "!=" || l.isSym "<>" then do
        let (b, ts) ← exprAt src fuel .relational rest
        equalityTail src fuel (.cmp (if l.isSym "=" || l.isSym "==" then .eq else .ne) a b) ts
      else if l.isWord "IS" then do
        let (notted, rest) := optional "NOT" rest
        let (distinct, rest) ← if nextIs rest "DISTINCT" then do
            let ((), rest) ← keywords ["DISTINCT", "FROM"] rest
            pure (true, rest)
          else pure (false, rest)
        let (b, ts) ← exprAt src fuel .relational rest
        let op := if notted != distinct then CmpOp.isNot else .is
        equalityTail src fuel (.cmp op a b) ts
      else if l.isWord "ISNULL" then equalityTail src fuel (.isNull a false) rest
      else if l.isWord "NOTNULL" then equalityTail src fuel (.isNull a true) rest
      else if l.isWord "NOT" && nextIs rest "NULL" then equalityTail src fuel (.isNull a true) (rest.drop 1)
      else
        let (negated, rest) := if l.isWord "NOT" then (true, rest) else (false, l :: rest)
        match rest with
        | m :: more =>
          if m.isWord "IN" then do
            let ((), more) ← symbol "(" more
            if queryNext more then do
              let (q, more) ← selectAt src fuel more
              let ((), more) ← symbol ")" more
              equalityTail src fuel (.inQuery a q negated) more
            else do
              let (items, more) ← if nextSym more ")" then pure ([], more) else exprList src fuel more
              let ((), more) ← symbol ")" more
              equalityTail src fuel (.inList a items negated) more
          else if m.isWord "LIKE" || m.isWord "GLOB" then do
            let (p, more) ← exprAt src fuel .relational more
            let (esc, more) ← if nextIs more "ESCAPE" then do
                let (x, more) ← exprAt src fuel .bits (more.drop 1)
                pure (some x, more)
              else pure (none, more)
            equalityTail src fuel (.like (m.isWord "GLOB") a p esc negated) more
          else if m.isWord "REGEXP" || m.isWord "MATCH" then do
            -- a call of the function of the operator's name, pattern first
            let (p, more) ← exprAt src fuel .relational more
            let (esc, more) ← if nextIs more "ESCAPE" then do
                let (x, more) ← exprAt src fuel .bits (more.drop 1)
                pure (some x, more)
              else pure (none, more)
            let fn := match m.token with
              | .word w => w
              | _ => ""
            let call := Expr.call fn ([p, a] ++ esc.toList) false
            equalityTail src fuel (if negated then .not call else call) more
          else if m.isWord "BETWEEN" then do
            let (lo, more) ← exprAt src fuel .relational more
            let ((), more) ← keyword "AND" more
            let (hi, more) ← exprAt src fuel .relational more
            equalityTail src fuel (.between a lo hi negated) more
          else if negated then .error (syntaxError (m :: more))
          else .ok (a, ts)
        | [] => if negated then .error (syntaxError []) else .ok (a, ts)
    | [] => .ok (a, [])

/-- Expressions separated by commas. -/
def exprList (src : List Char) : Nat → Parser (List Expr)
  | 0, ts => .error (syntaxError ts)
  | fuel + 1, ts => do
    let (e, ts) ← exprAt src fuel .or ts
    if nextSym ts "," then do
      let (es, ts) ← exprList src fuel (ts.drop 1)
      pure (e :: es, ts)
    else pure ([e], ts)

/-- The `WHEN … THEN …` arms of a `CASE`, then its `ELSE` and `END`. -/
def caseArms (src : List Char) : Nat → Parser (List (Expr × Expr) × Option Expr)
  | 0, ts => .error (syntaxError ts)
  | fuel + 1, ts =>
    if nextIs ts "WHEN" then do
      let (w, ts) ← exprAt src fuel .or (ts.drop 1)
      let ((), ts) ← keyword "THEN" ts
      let (t, ts) ← exprAt src fuel .or ts
      let ((arms, other), ts) ← caseArms src fuel ts
      pure (((w, t) :: arms, other), ts)
    else if nextIs ts "ELSE" then do
      let (o, ts) ← exprAt src fuel .or (ts.drop 1)
      let ((), ts) ← keyword "END" ts
      pure (([], some o), ts)
    else do
      let ((), ts) ← keyword "END" ts
      pure (([], none), ts)

/-- A term: a literal, a parameter, a column, a call, a parenthesised expression or query,
`EXISTS`, `CAST`, `CASE` or `RAISE`. -/
def term (src : List Char) : Nat → Parser Expr
  | 0, ts => .error (syntaxError ts)
  | fuel + 1, ts =>
    match ts with
    | [] => .error (syntaxError [])
    | l :: rest =>
      match l.token with
      | .integer d => .ok (.literal (integerLiteral false d), rest)
      | .float f => .ok (.literal (.real (readReal f).1), rest)
      | .hex h => do pure (.literal (← hexLiteral false h), rest)
      | .text s => .ok (.literal (.text s), rest)
      | .blob bs => .ok (.literal (.blob bs), rest)
      | .param i => .ok (.param ((i.getD 1) - 1), rest)
      | .sym "(" =>
        if queryNext rest then do
          let (q, ts) ← selectAt src fuel rest
          let ((), ts) ← symbol ")" ts
          pure (.subquery q, ts)
        else do
          let (e, ts) ← exprAt src fuel .or rest
          let ((), ts) ← symbol ")" ts
          pure (e, ts)
      | .quotedName n => columnRef n true rest
      | .word w =>
        let u := upper w
        if u == "NULL" then .ok (.literal .null, rest)
        else if u == "EXISTS" && nextSym rest "(" then do
          let (q, ts) ← selectAt src fuel (rest.drop 1)
          let ((), ts) ← symbol ")" ts
          pure (.exists q, ts)
        else if u == "CAST" && nextSym rest "(" then do
          let (e, ts) ← exprAt src fuel .or (rest.drop 1)
          let ((), ts) ← keyword "AS" ts
          let (ws, ts) ← typeName ts.length ts
          let ((), ts) ← symbol ")" ts
          pure (.cast e (" ".intercalate ws), ts)
        else if u == "CASE" then do
          let (subject, ts) ← if nextIs rest "WHEN" then pure (none, rest) else do
              let (s, ts) ← exprAt src fuel .or rest
              pure (some s, ts)
          if !nextIs ts "WHEN" then throw (syntaxError ts)
          let ((arms, other), ts) ← caseArms src fuel ts
          pure (.case subject arms other, ts)
        else if u == "RAISE" && nextSym rest "(" then
          match rest.drop 1 with
          | m :: more =>
            match raiseActionOf? m with
            | some .ignore => do
              let ((), more) ← symbol ")" more
              pure (.raise .ignore "", more)
            | some act => do
              let ((), more) ← symbol "," more
              let (msg, more) ← name more
              let ((), more) ← symbol ")" more
              pure (.raise act msg, more)
            | none => .error (syntaxError (m :: more))
          | [] => .error (syntaxError [])
        else if ["CURRENT_TIMESTAMP", "CURRENT_DATE", "CURRENT_TIME"].contains u then
          .ok (.call (lower u) [] false, rest)
        else if reserved.contains u then .error (syntaxError ts)
        else if nextSym rest "(" then do
          let after := rest.drop 1
          let distinct := nextIs after "DISTINCT"
          let after := if distinct || nextIs after "ALL" then after.drop 1 else after
          if nextSym after "*" then do
            let ((), ts) ← symbol ")" (after.drop 1)
            pure (.call w [] false, ts)
          else if nextSym after ")" then pure (.call w [] distinct, after.drop 1)
          else do
            let (args, ts) ← exprList src fuel after
            let ((), ts) ← symbol ")" ts
            pure (.call w args distinct, ts)
        else columnRef w false rest
      | _ => .error (syntaxError ts)

/-- A query: the queries it names first (`WITH`), then selects joined by compound operators,
the last one's `ORDER BY` and `LIMIT` applying to the whole. -/
def selectAt (src : List Char) : Nat → Parser Select
  | 0, ts => .error (syntaxError ts)
  | fuel + 1, ts =>
    if nextIs ts "WITH" then do
      let ts := ts.drop 1
      let ts := if nextIs ts "RECURSIVE" then ts.drop 1 else ts
      let (ctes, ts) ← cteList src fuel ts
      if let some e := duplicateCte ctes then throw e
      let ((q, tail), ts) ← oneSelect src fuel ts
      let (body, ts) ← compoundRest src fuel q tail none ts
      pure (.withCtes ctes body, ts)
    else do
      let ((q, tail), ts) ← oneSelect src fuel ts
      compoundRest src fuel q tail none ts

/-- The selects after the first of a compound query. An `ORDER BY` or `LIMIT` may only end the
last; `misplaced` is the failure for the last one out of place. -/
def compoundRest (src : List Char) : Nat → Select → QueryTail → Option SqlError → Parser Select
  | 0, _, _, _, ts => .error (syntaxError ts)
  | fuel + 1, q, (order, limit, offset), misplaced, ts =>
    match compoundOp? ts with
    | some (op, ts) => do
      let misplaced :=
        if !order.isEmpty then some (logicError ("ORDER BY clause should come after " ++ op.name ++ " not before"))
        else if limit.isSome then some (logicError ("LIMIT clause should come after " ++ op.name ++ " not before"))
        else misplaced
      let ((r, tail), ts) ← oneSelect src fuel ts
      compoundRest src fuel (.compound op q r) tail misplaced ts
    | none =>
      match misplaced with
      | some e => .error e
      | none => .ok (if order.isEmpty && limit.isNone then q else .ordered q order limit offset, ts)

/-- One select, with its `ORDER BY` and `LIMIT`: `SELECT [DISTINCT] items [FROM …] [WHERE …]
[GROUP BY … [HAVING …]]`, or `VALUES`. -/
def oneSelect (src : List Char) : Nat → Parser (Select × QueryTail)
  | 0, ts => .error (syntaxError ts)
  | fuel + 1, ts =>
    if nextIs ts "VALUES" then do
      let (rows, ts) ← valueRowsAt src fuel (ts.drop 1)
      pure ((.values rows, ([], none, none)), ts)
    else do
      let ((), ts) ← keyword "SELECT" ts
      let (distinct, ts) := if nextIs ts "DISTINCT" then (true, ts.drop 1)
        else if nextIs ts "ALL" then (false, ts.drop 1) else (false, ts)
      let (items, ts) ← selectItemsAt src fuel ts
      let (sources, ts) ← if nextIs ts "FROM" then fromItems src fuel none (ts.drop 1) else pure ([], ts)
      let (filter, ts) ← if nextIs ts "WHERE" then do
          let (e, ts) ← exprAt src fuel .or (ts.drop 1)
          pure (some e, ts)
        else pure (none, ts)
      let (groupBy, ts) ← if nextIs ts "GROUP" then do
          let ((), ts) ← keywords ["GROUP", "BY"] ts
          exprList src fuel ts
        else pure ([], ts)
      let (having, ts) ← if nextIs ts "HAVING" then do
          let (e, ts) ← exprAt src fuel .or (ts.drop 1)
          pure (some e, ts)
        else pure (none, ts)
      let (order, ts) ← if nextIs ts "ORDER" then do
          let ((), ts) ← keywords ["ORDER", "BY"] ts
          orderTerms src fuel ts
        else pure ([], ts)
      let ((limit, offset), ts) ← if nextIs ts "LIMIT" then do
          let (a, ts) ← exprAt src fuel .or (ts.drop 1)
          if nextIs ts "OFFSET" then do
            let (b, ts) ← exprAt src fuel .or (ts.drop 1)
            pure ((some a, some b), ts)
          else if nextSym ts "," then do
            let (b, ts) ← exprAt src fuel .or (ts.drop 1)
            pure ((some b, some a), ts)
          else pure ((some a, none), ts)
        else pure ((none, none), ts)
      pure ((.core distinct items sources filter groupBy having, (order, limit, offset)), ts)

/-- The queries of a `WITH`: `name [(columns)] AS [[NOT] MATERIALIZED] (query)`, comma
separated. -/
def cteList (src : List Char) : Nat → Parser Ctes
  | 0, ts => .error (syntaxError ts)
  | fuel + 1, ts => do
    let (n, ts) ← name ts
    let (cols, ts) ← if nextSym ts "(" then do
        let (ns, ts) ← nameList ts.length (ts.drop 1)
        pure (some ns, ts)
      else pure (none, ts)
    let ((), ts) ← keyword "AS" ts
    let ts := if nextIs ts "MATERIALIZED" then ts.drop 1
      else if nextIs ts "NOT" && nextIs (ts.drop 1) "MATERIALIZED" then ts.drop 2 else ts
    let ((), ts) ← symbol "(" ts
    let (q, ts) ← selectAt src fuel ts
    let ((), ts) ← symbol ")" ts
    if nextSym ts "," then do
      let (more, ts) ← cteList src fuel (ts.drop 1)
      pure ((n, cols, q) :: more, ts)
    else pure ([(n, cols, q)], ts)

/-- The items of a `SELECT` list, each with the text it was written as. -/
def selectItemsAt (src : List Char) : Nat → Parser (List SelectItem)
  | 0, ts => .error (syntaxError ts)
  | fuel + 1, ts => do
    let star : Option (SelectItem × List Lexeme) :=
      if nextSym ts "*" then some (.star, ts.drop 1)
      else
        match ts with
        | ⟨.word t, _, _, _⟩ :: d :: s :: more =>
          if d.isSym "." && s.isSym "*" && !reserved.contains (upper t) then some (.tableStar t, more) else none
        | ⟨.quotedName t, _, _, _⟩ :: d :: s :: more =>
          if d.isSym "." && s.isSym "*" then some (.tableStar t, more) else none
        | _ => none
    let (item, ts) ← match star with
      | some r => pure r
      | none => do
        let (e, rest) ← exprAt src fuel .or ts
        let text := takenText src ts rest
        let (asName, rest) ← itemAlias rest
        pure (SelectItem.expr e asName text, rest)
    if nextSym ts "," then do
      let (items, ts) ← selectItemsAt src fuel (ts.drop 1)
      pure (item :: items, ts)
    else pure ([item], ts)

/-- The tables of a `FROM` clause, each with how it is joined to those before it; `join` is the
join operator before this one, none for the first. -/
def fromItems (src : List Char) : Nat → Option (JoinKind × Bool) → Parser (List (FromItem × JoinKind × JoinOn))
  | 0, _, ts => .error (syntaxError ts)
  | fuel + 1, join, ts => do
    let (item, ts) ← if nextSym ts "(" then do
        let (q, ts) ← selectAt src fuel (ts.drop 1)
        let ((), ts) ← symbol ")" ts
        let (asName, ts) ← tableAlias ts
        pure (FromItem.query q asName, ts)
      else do
        let ((_, n), ts) ← qualifiedName ts
        let (asName, ts) ← tableAlias ts
        pure (FromItem.named n asName, ts)
    let natural := (join.map (·.2)).getD false
    let (on, ts) ←
      if nextIs ts "ON" || nextIs ts "USING" then do
        if join.isNone then throw (logicError ("a JOIN clause is required before " ++
          (if nextIs ts "ON" then "ON" else "USING")))
        if natural then throw (logicError "a NATURAL join may not have an ON or USING clause")
        if nextIs ts "ON" then do
          let (e, ts) ← exprAt src fuel .or (ts.drop 1)
          pure (JoinOn.on e, ts)
        else do
          let ((), ts) ← symbol "(" (ts.drop 1)
          let (ns, ts) ← nameList ts.length ts
          pure (JoinOn.using ns, ts)
      else pure (if natural then JoinOn.natural else JoinOn.none, ts)
    let here := (item, (join.map (·.1)).getD .inner, on)
    match joinOp? ts with
    | some (.ok (next, ts)) => do
      let (more, ts) ← fromItems src fuel (some next) ts
      pure (here :: more, ts)
    | some (.error e) => .error e
    | none => .ok ([here], ts)

/-- The terms of an `ORDER BY`: each an expression, descending or not, with `NULL` first or
last when said. -/
def orderTerms (src : List Char) : Nat → Parser (List (Expr × Bool × Option Bool))
  | 0, ts => .error (syntaxError ts)
  | fuel + 1, ts => do
    let (e, ts) ← exprAt src fuel .or ts
    let (desc, ts) := if nextIs ts "DESC" then (true, ts.drop 1)
      else if nextIs ts "ASC" then (false, ts.drop 1) else (false, ts)
    let (nulls, ts) ← if nextIs ts "NULLS" then
        if nextIs (ts.drop 1) "FIRST" then pure (some true, ts.drop 2)
        else if nextIs (ts.drop 1) "LAST" then pure (some false, ts.drop 2)
        else throw (syntaxError (ts.drop 1))
      else pure (none, ts)
    if nextSym ts "," then do
      let (more, ts) ← orderTerms src fuel (ts.drop 1)
      pure ((e, desc, nulls) :: more, ts)
    else pure ([(e, desc, nulls)], ts)

/-- Rows of values in parentheses, comma separated, all of one length. -/
def valueRowsAt (src : List Char) : Nat → Parser (List (List Expr))
  | 0, ts => .error (syntaxError ts)
  | fuel + 1, ts => do
    let ((), ts) ← symbol "(" ts
    let (row, ts) ← exprList src fuel ts
    let ((), ts) ← symbol ")" ts
    if nextSym ts "," then do
      let (rows, ts) ← valueRowsAt src fuel (ts.drop 1)
      if rows.any (·.length != row.length) then
        throw (logicError "all VALUES must have the same number of terms")
      pure (row :: rows, ts)
    else pure ([row], ts)

end

/-- The fuel of a parse of lexemes: a level of nesting takes at most a few dozen steps, and each
nesting a lexeme at least. -/
def parseFuel (ts : List Lexeme) : Nat := 24 * ts.length + 24

/-- Parses an expression. -/
def expr (src : List Char) (ts : List Lexeme) : Except SqlError (Expr × List Lexeme) :=
  exprAt src (parseFuel ts) .or ts

/-- Parses an expression at a level. -/
def exprOf (src : List Char) (lvl : Level) (ts : List Lexeme) : Except SqlError (Expr × List Lexeme) :=
  exprAt src (parseFuel ts) lvl ts

/-- Expressions separated by commas, at least one. -/
def exprs (src : List Char) (ts : List Lexeme) : Except SqlError (List Expr × List Lexeme) :=
  exprList src (parseFuel ts) ts

/-- Parses a query. -/
def select (src : List Char) (ts : List Lexeme) : Except SqlError (Select × List Lexeme) :=
  selectAt src (parseFuel ts) ts

/-- The items of a `SELECT` list. -/
def selectItems (src : List Char) (ts : List Lexeme) : Except SqlError (List SelectItem × List Lexeme) :=
  selectItemsAt src (parseFuel ts) ts

mutual

/-- Whether an expression reads only constants: no column, parameter or `RAISE`. -/
def Expr.isConstant : Expr → Bool
  | .literal _ => true
  | .param _ | .column .. | .raise .. | .subquery _ | .exists _ | .inQuery .. => false
  | .neg e | .pos e | .bitNot e | .not e => e.isConstant
  | .isNull e _ | .collate e _ | .cast e _ => e.isConstant
  | .arith _ a b | .cmp _ a b | .and a b | .or a b => a.isConstant && b.isConstant
  | .call _ args _ => allConstant args
  | .between e lo hi _ => e.isConstant && lo.isConstant && hi.isConstant
  | .inList e items _ => e.isConstant && allConstant items
  | .like _ e p esc _ => e.isConstant && p.isConstant && maybeConstant esc
  | .case s arms o => maybeConstant s && armsConstant arms && maybeConstant o

/-- Whether every expression of a list reads only constants. -/
def allConstant : List Expr → Bool
  | [] => true
  | e :: es => e.isConstant && allConstant es

/-- Whether the arms of a `CASE` read only constants. -/
def armsConstant : List (Expr × Expr) → Bool
  | [] => true
  | (w, t) :: rest => w.isConstant && t.isConstant && armsConstant rest

/-- Whether an optional expression reads only constants. -/
def maybeConstant : Option Expr → Bool
  | some e => e.isConstant
  | none => true

end

/-! ## Tables -/

/-- The resolution a lexeme names in an `ON CONFLICT` or `OR` clause. -/
def conflictOf? (l : Lexeme) : Option Conflict :=
  if l.isWord "ROLLBACK" then some .rollback else if l.isWord "ABORT" then some .abort
  else if l.isWord "FAIL" then some .fail else if l.isWord "IGNORE" then some .ignore
  else if l.isWord "REPLACE" then some .replace else none

/-- An optional `ON CONFLICT resolution` of a constraint. -/
def conflictClause : Parser (Option Conflict)
  | ts =>
    if nextIs ts "ON" && nextIs (ts.drop 1) "CONFLICT" then
      match ts.drop 2 with
      | l :: rest =>
        match conflictOf? l with
        | some c => .ok (some c, rest)
        | none => .error (syntaxError (l :: rest))
      | [] => .error (syntaxError [])
    else .ok (none, ts)

/-- A collation name, which must be known. -/
def collationName : Parser Collation
  | ts => do
    let (n, ts) ← name ts
    match Collation.ofName? n with
    | some c => pure (c, ts)
    | none => throw (logicError ("no such collation sequence: " ++ n))

/-- A `CHECK (expr)` after its keyword, named by its constraint name or by the text between
its parentheses. -/
def checkBody (src : List Char) (label : Option String) : Parser Check
  | ts => do
    let open_ := ts.head?
    let ((), ts) ← symbol "(" ts
    let (e, rest) ← expr src ts
    let close := rest.head?
    let ((), rest) ← symbol ")" rest
    let text := match open_, close with
      | some a, some b => spanText src a.stop b.start
      | _, _ => ""
    pure ({ label := label.getD text, expr := e }, rest)

/-- Skips the clauses of a foreign key after `REFERENCES table [(columns)]`. -/
def skipReferences : Nat → List Lexeme → List Lexeme
  | 0, ts => ts
  | fuel + 1, ts =>
    if nextIs ts "ON" && !nextIs (ts.drop 1) "CONFLICT" then
      let ts := ts.drop 2
      let ts := if nextIs ts "SET" || nextIs ts "NO" then ts.drop 2 else ts.drop 1
      skipReferences fuel ts
    else if nextIs ts "MATCH" then skipReferences fuel (ts.drop 2)
    else if nextIs ts "NOT" && nextIs (ts.drop 1) "DEFERRABLE" then skipReferences fuel (ts.drop 1)
    else if nextIs ts "DEFERRABLE" then
      let ts := ts.drop 1
      let ts := if nextIs ts "INITIALLY" then ts.drop 2 else ts
      skipReferences fuel ts
    else ts

/-- `REFERENCES table [(columns)]` and its clauses, after the keyword. -/
def references : Parser Unit
  | ts => do
    let (_, ts) ← name ts
    let ts ← if nextSym ts "(" then do
        let (_, ts) ← nameList ts.length (ts.drop 1)
        pure ts
      else pure ts
    pure ((), skipReferences ts.length ts)

/-- What a column definition adds to a table besides the column. -/
structure ColumnExtras where
  column : Column
  /-- A primary key on the column: whether descending, its conflict resolution, and whether it
  counts rows up. -/
  primary : Option (Bool × Option Conflict × Bool) := none
  unique : List (Option Conflict) := []
  checks : List Check := []
  deriving Inhabited

/-- A default value: a literal, a signed number, an expression in parentheses, or a bare
name, which stands for its own text. -/
def defaultValue (src : List Char) (colName : String) : Parser Expr
  | ts => do
    let (e, ts) ← match ts with
      | l :: rest =>
        if l.isSym "(" then do
          let (e, ts) ← expr src rest
          let ((), ts) ← symbol ")" ts
          pure (e, ts)
        else if l.isSym "-" || l.isSym "+" then
          -- a sign stands only before a literal
          match rest with
          | t :: _ =>
            match t.token with
            | .integer _ | .float _ | .hex _ | .text _ | .blob _ => exprOf src .unary ts
            | .word w =>
              if ["NULL", "CURRENT_TIME", "CURRENT_DATE", "CURRENT_TIMESTAMP"].contains (upper w)
              then exprOf src .unary ts
              else .error (syntaxError rest)
            | _ => .error (syntaxError rest)
          | [] => .error (syntaxError [])
        else
          match l.token with
          | .word w =>
            if ["NULL", "CURRENT_TIME", "CURRENT_DATE", "CURRENT_TIMESTAMP"].contains (upper w) then
              exprOf src .unary ts
            else if upper w == "TRUE" then pure (.literal (.int 1), rest)
            else if upper w == "FALSE" then pure (.literal (.int 0), rest)
            else pure (.literal (.text w), rest)
          | .integer _ | .float _ | .hex _ | .text _ | .blob _ => exprOf src .unary ts
          | _ => .error (syntaxError ts)
      | [] => .error (syntaxError [])
    if e.isConstant then pure (e, ts)
    else throw (logicError ("default value of column [" ++ colName ++ "] is not constant"))

/-- The constraints of a column, up to the `,` or `)` after them. -/
def columnConstraints (src : List Char) : Nat → ColumnExtras → Option String → Parser ColumnExtras
  | 0, _, _, ts => .error (syntaxError ts)
  | fuel + 1, c, label, ts =>
    match ts with
    | [] => .ok (c, [])
    | l :: rest =>
      if l.isSym "," || l.isSym ")" || l.isSym ";" then .ok (c, ts)
      else if l.isWord "CONSTRAINT" then do
        let (n, ts) ← name rest
        columnConstraints src fuel c (some n) ts
      else if l.isWord "PRIMARY" then do
        if c.primary.isSome then throw (logicError ("table has more than one primary key"))
        if c.column.generated.isSome then
          throw (logicError "generated columns cannot be part of the PRIMARY KEY")
        let ((), ts) ← keyword "KEY" rest
        let (desc, ts) := if nextIs ts "DESC" then (true, ts.drop 1)
          else if nextIs ts "ASC" then (false, ts.drop 1) else (false, ts)
        let (conflict, ts) ← conflictClause ts
        let (auto, ts) := optional "AUTOINCREMENT" ts
        columnConstraints src fuel { c with primary := some (desc, conflict, auto) } none ts
      else if l.isWord "NOT" then do
        let ((), ts) ← keyword "NULL" rest
        let (conflict, ts) ← conflictClause ts
        columnConstraints src fuel
          { c with column.notNull := some (conflict.getD .abort) } none ts
      else if l.isWord "NULL" then do
        let (_, ts) ← conflictClause rest
        columnConstraints src fuel c none ts
      else if l.isWord "UNIQUE" then do
        let (conflict, ts) ← conflictClause rest
        columnConstraints src fuel { c with unique := c.unique ++ [conflict] } none ts
      else if l.isWord "CHECK" then do
        let (k, ts) ← checkBody src label rest
        columnConstraints src fuel { c with checks := c.checks ++ [{ k with column := some c.column.name }] } none ts
      else if l.isWord "DEFAULT" then do
        if c.column.generated.isSome then throw (logicError "cannot use DEFAULT on a generated column")
        let (e, ts) ← defaultValue src c.column.name rest
        columnConstraints src fuel { c with column.default := some e } none ts
      else if l.isWord "COLLATE" then do
        let (coll, ts) ← collationName rest
        columnConstraints src fuel { c with column.collation := coll } none ts
      else if l.isWord "REFERENCES" then do
        let ((), ts) ← references rest
        columnConstraints src fuel c none ts
      else if l.isWord "GENERATED" || l.isWord "AS" then do
        let ts ← if l.isWord "GENERATED" then do
            let ((), ts) ← keywords ["ALWAYS", "AS"] rest
            pure ts
          else pure rest
        let ((), ts) ← symbol "(" ts
        let (e, ts) ← expr src ts
        let ((), ts) ← symbol ")" ts
        let failed := logicError ("error in generated column \"" ++ c.column.name ++ "\"")
        if c.column.default.isSome then throw failed
        let ts ← match ts with
          | k :: more =>
            match k.token with
            | .word w =>
              if upper w == "STORED" || upper w == "VIRTUAL" then pure more
              else if k.isWord "CONSTRAINT" || ["PRIMARY", "NOT", "NULL", "UNIQUE", "CHECK", "DEFAULT",
                  "COLLATE", "REFERENCES", "GENERATED", "AS"].contains (upper w) then pure ts
              else throw failed
            | _ => pure ts
          | [] => pure ts
        if c.primary.isSome then throw (logicError "generated columns cannot be part of the PRIMARY KEY")
        columnConstraints src fuel { c with column.generated := some e } none ts
      else .error (syntaxError ts)

/-- Where a name stands in a list of columns, up to ASCII case. -/
def columnIndex? (cols : List Column) (n : String) : Option Nat := cols.findIdx? (sameName ·.name n)

/-- The columns of a key in parentheses, each with an optional collation and order, up to the
closing parenthesis, which is taken. -/
def keyColumns : Nat → Parser (List (String × Option Collation))
  | 0, ts => .error (syntaxError ts)
  | fuel + 1, ts => do
    let (n, ts) ← name ts
    let (coll, ts) ← if nextIs ts "COLLATE" then do
        let (c, ts) ← collationName (ts.drop 1)
        pure (some c, ts)
      else pure (none, ts)
    let ts := if nextIs ts "ASC" || nextIs ts "DESC" then ts.drop 1 else ts
    if nextSym ts "," then do
      let (more, ts) ← keyColumns fuel (ts.drop 1)
      pure ((n, coll) :: more, ts)
    else
      let ((), ts) ← symbol ")" ts
      pure ([(n, coll)], ts)

/-- Whether a declared type makes a primary key column stand for the row id. -/
def isIntegerType (type : String) : Bool := type == "INTEGER"

/-- A key on named columns, each with its own collation or the column's. -/
def keyOn (sh : Shape) (kind : KeyKind) (cols : List (String × Option Collation))
    (conflict : Option Conflict) : Except SqlError Key := do
  let parts ← cols.mapM fun (n, coll) => match columnIndex? sh.columns n with
    | some i => pure (i, coll.getD (sh.columns.getD i default).collation)
    | none => throw (logicError ("no such column: " ++ n))
  pure ⟨kind, parts, conflict⟩

/-- Adds a primary key, refusing a second one. -/
def Shape.addPrimary (sh : Shape) (k : Key) (rowidAlias : Bool) : Except SqlError Shape := do
  if sh.keys.any (·.kind == .primary) then
    throw (logicError ("table \"" ++ sh.name ++ "\" has more than one primary key"))
  let rowid := match rowidAlias, k.columns with
    | true, [(i, _)] => if isIntegerType (sh.columns.getD i default).type then some i else none
    | _, _ => none
  pure { sh with keys := sh.keys ++ [k], rowid := rowid }

/-- The items of a `CREATE TABLE`, after its `(`: column definitions, then table
constraints. -/
def tableItems (src : List Char) : Nat → Shape → Parser Shape
  | 0, _, ts => .error (syntaxError ts)
  | fuel + 1, sh, ts => do
    let (label, ts) ← if nextIs ts "CONSTRAINT" then do
        let (n, ts) ← name (ts.drop 1)
        pure (some n, ts)
      else pure (none, ts)
    let (sh, ts) ←
      if nextIs ts "PRIMARY" || nextIs ts "UNIQUE" then do
        let kind := if nextIs ts "PRIMARY" then KeyKind.primary else .unique
        let ts := if kind == .primary then ts.drop 2 else ts.drop 1
        let ((), ts) ← symbol "(" ts
        let (cols, ts) ← keyColumns ts.length ts
        let (conflict, ts) ← conflictClause ts
        let k ← keyOn sh kind cols conflict
        if kind == .primary && k.columns.any (fun (i, _) => (sh.columns.getD i default).generated.isSome) then
          throw (logicError "generated columns cannot be part of the PRIMARY KEY")
        let sh ← if kind == .primary then sh.addPrimary k true
          else pure { sh with keys := sh.keys ++ [k] }
        pure (sh, ts)
      else if nextIs ts "CHECK" then do
        let (k, ts) ← checkBody src label (ts.drop 1)
        pure ({ sh with checks := sh.checks ++ [k] }, ts)
      else if nextIs ts "FOREIGN" then do
        let ((), ts) ← keywords ["FOREIGN", "KEY"] ts
        let ((), ts) ← symbol "(" ts
        let (_, ts) ← nameList ts.length ts
        let ((), ts) ← keyword "REFERENCES" ts
        let ((), ts) ← references ts
        pure (sh, ts)
      else do
        let (n, ts) ← name ts
        if (columnIndex? sh.columns n).isSome then throw (logicError ("duplicate column name: " ++ n))
        let (type, ts) ← typeName ts.length ts
        let (c, ts) ← columnConstraints src (ts.length + 1)
          { column := { name := n, type := " ".intercalate type } } none ts
        let i := sh.columns.length
        let sh := { sh with columns := sh.columns ++ [c.column], checks := sh.checks ++ c.checks }
        let sh ← match c.primary with
          | some (desc, conflict, auto) => do
            if auto && !isIntegerType c.column.type then
              throw (logicError "AUTOINCREMENT is only allowed on an INTEGER PRIMARY KEY")
            sh.addPrimary ⟨.primary, [(i, c.column.collation)], conflict⟩ !desc
          | none => pure sh
        let sh := c.unique.foldl (fun sh conflict =>
          { sh with keys := sh.keys ++ [⟨.unique, [(i, c.column.collation)], conflict⟩] }) sh
        pure (sh, ts)
    match ts with
    | l :: rest =>
      if l.isSym "," then tableItems src fuel sh rest
      else if l.isSym ")" then pure (sh, rest)
      else .error (syntaxError ts)
    | [] => .error (syntaxError [])

/-- The options after the items of a `CREATE TABLE`, comma separated: `STRICT`, and `WITHOUT
ROWID`, which leaves no column standing for a row id and makes the primary key `NOT NULL`. -/
def tableOptions : Nat → Shape → Parser Shape
  | 0, sh, ts => .ok (sh, ts)
  | fuel + 1, sh, ts =>
    let next : Option (Shape × List Lexeme) :=
      if nextIs ts "STRICT" then some ({ sh with strict := true }, ts.drop 1)
      else if nextIs ts "WITHOUT" && nextIs (ts.drop 1) "ROWID" then
        let keyed := (sh.keys.filter (·.kind == .primary)).flatMap fun k => k.columns.map (·.1)
        some ({ sh with rowid := none, withoutRowid := true, columns := sh.columns.zipIdx.map fun (c, i) =>
          if keyed.contains i && c.notNull.isNone then { c with notNull := some .abort } else c }, ts.drop 2)
      else none
    match next with
    | some (sh, ts) => if nextSym ts "," then tableOptions fuel sh (ts.drop 1) else .ok (sh, ts)
    | none => .ok (sh, ts)

/-! ## Queries and changes -/

/-- Assignments `column = expr`, comma separated. -/
def assignments (src : List Char) : Nat → Parser (List (String × Expr))
  | 0, ts => .error (syntaxError ts)
  | fuel + 1, ts => do
    let (n, ts) ← name ts
    let ((), ts) ← symbol "=" ts
    let (e, ts) ← expr src ts
    if nextSym ts "," then
      let (more, ts) ← assignments src fuel (ts.drop 1)
      pure ((n, e) :: more, ts)
    else pure ([(n, e)], ts)

/-- An optional `WHERE expr`. -/
def whereClause (src : List Char) : Parser (Option Expr)
  | ts =>
    if nextIs ts "WHERE" then do
      let (e, ts) ← expr src (ts.drop 1)
      pure (some e, ts)
    else .ok (none, ts)

/-- An `ON CONFLICT [(columns)] DO NOTHING | DO UPDATE SET … [WHERE …]` clause. -/
def upsertClause (src : List Char) : Parser (Option Upsert)
  | ts =>
    if nextIs ts "ON" && nextIs (ts.drop 1) "CONFLICT" then do
      let ts := ts.drop 2
      let (target, ts) ← if nextSym ts "(" then do
          let (cols, ts) ← keyColumns ts.length (ts.drop 1)
          let (_, ts) ← whereClause src ts
          pure (some (cols.map (·.1)), ts)
        else pure (none, ts)
      let ((), ts) ← keyword "DO" ts
      if nextIs ts "NOTHING" then pure (some ⟨target, .nothing⟩, ts.drop 1)
      else do
        let ((), ts) ← keywords ["UPDATE", "SET"] ts
        let (sets, ts) ← assignments src ts.length ts
        let (filter, ts) ← whereClause src ts
        pure (some ⟨target, .update sets filter⟩, ts)
    else .ok (none, ts)

/-- A statement that reads or changes rows. -/
def dml (src : List Char) : Parser Dml
  | ts =>
    if nextIs ts "INSERT" || nextIs ts "REPLACE" then do
      let (conflict, ts) ←
        if nextIs ts "REPLACE" then pure (some Conflict.replace, ts.drop 1)
        else if nextIs (ts.drop 1) "OR" then
          match ts.drop 2 with
          | l :: rest =>
            match conflictOf? l with
            | some c => pure (some c, rest)
            | none => throw (syntaxError (l :: rest))
          | [] => throw (syntaxError [])
        else pure (none, ts.drop 1)
      let ((), ts) ← keyword "INTO" ts
      let ((_, t), ts) ← qualifiedName ts
      let ts ← if nextIs ts "AS" then do
          let (_, ts) ← name (ts.drop 1)
          pure ts
        else pure ts
      let (cols, ts) ← if nextSym ts "(" then do
          let (ns, ts) ← nameList ts.length (ts.drop 1)
          pure (some ns, ts)
        else pure (none, ts)
      let (rows, ts) ←
        if nextIs ts "VALUES" then do
          let (rows, ts) ← valueRowsAt src (parseFuel ts) (ts.drop 1)
          pure (InsertRows.values rows, ts)
        else if nextIs ts "DEFAULT" then do
          let ((), ts) ← keywords ["DEFAULT", "VALUES"] ts
          pure (InsertRows.defaults, ts)
        else do
          let (q, ts) ← select src ts
          pure (InsertRows.query q, ts)
      let (up, ts) ← upsertClause src ts
      pure (.insert t conflict cols rows up, ts)
    else if nextIs ts "UPDATE" then do
      let ts := ts.drop 1
      let (conflict, ts) ← if nextIs ts "OR" then
          match ts.drop 1 with
          | l :: rest =>
            match conflictOf? l with
            | some c => pure (some c, rest)
            | none => throw (syntaxError (l :: rest))
          | [] => throw (syntaxError [])
        else pure (none, ts)
      let ((_, t), ts) ← qualifiedName ts
      let ((), ts) ← keyword "SET" ts
      let (sets, ts) ← assignments src ts.length ts
      let (filter, ts) ← whereClause src ts
      pure (.update t conflict sets filter, ts)
    else if nextIs ts "DELETE" then do
      let ((), ts) ← keywords ["DELETE", "FROM"] ts
      let ((_, t), ts) ← qualifiedName ts
      let (filter, ts) ← whereClause src ts
      pure (.delete t filter, ts)
    else if queryNext ts then do
      let (q, ts) ← select src ts
      pure (.select q, ts)
    else .error (syntaxError ts)

/-- The statements of a trigger body, each ended by `;`, up to `END`. An `INSERT` may not
answer rows. -/
def triggerBody (src : List Char) : Nat → Parser (List Dml)
  | 0, ts => .error (syntaxError ts)
  | fuel + 1, ts => do
    let (d, ts) ← dml src ts
    if nextIs ts "RETURNING" then
      if let .insert .. := d then throw (logicError "cannot use RETURNING in a trigger")
    let ((), ts) ← symbol ";" ts
    if nextIs ts "END" then pure ([d], ts.drop 1)
    else do
      let (more, ts) ← triggerBody src fuel ts
      pure (d :: more, ts)

/-! ## Statements -/

/-- `IF NOT EXISTS`, if it is next. -/
def ifNotExists : Parser Bool
  | ts =>
    if nextIs ts "IF" then do
      let ((), ts) ← keywords ["IF", "NOT", "EXISTS"] ts
      pure (true, ts)
    else .ok (false, ts)

/-- A `CREATE` statement after `CREATE` and an optional `TEMP`. -/
def createStatement (src : List Char) (temp : Bool) : Parser Statement
  | ts =>
    if nextIs ts "TABLE" then do
      let (ine, ts) ← ifNotExists (ts.drop 1)
      let ((tempSchema, n), ts) ← qualifiedName ts
      if nextIs ts "AS" then do
        let (q, ts) ← select src (ts.drop 1)
        return (.createTableAs ine n (temp || tempSchema) q, ts)
      let ((), ts) ← symbol "(" ts
      let (sh, ts) ← tableItems src ts.length { name := n, temporary := temp || tempSchema } ts
      let (sh, ts) ← tableOptions ts.length sh ts
      pure (.createTable ine sh, ts)
    else if nextIs ts "VIEW" then do
      let (ine, ts) ← ifNotExists (ts.drop 1)
      let ((tempSchema, n), ts) ← qualifiedName ts
      let (cols, ts) ← if nextSym ts "(" then do
          let (ns, ts) ← nameList ts.length (ts.drop 1)
          pure (some ns, ts)
        else pure (none, ts)
      let ((), ts) ← keyword "AS" ts
      let (q, ts) ← select src ts
      let view : View := ⟨n, cols, q, temp || tempSchema⟩
      pure (.createView ine view, ts)
    else if nextIs ts "TRIGGER" then do
      let (ine, ts) ← ifNotExists (ts.drop 1)
      let ((tempSchema, n), ts) ← qualifiedName ts
      let (time, ts) ←
        if nextIs ts "BEFORE" then pure (TriggerTime.before, ts.drop 1)
        else if nextIs ts "AFTER" then pure (TriggerTime.after, ts.drop 1)
        else if nextIs ts "INSTEAD" then do
          let ((), ts) ← keywords ["INSTEAD", "OF"] ts
          pure (TriggerTime.insteadOf, ts)
        else pure (TriggerTime.before, ts)
      let (event, ts) ←
        if nextIs ts "INSERT" then pure (TriggerEvent.insert, ts.drop 1)
        else if nextIs ts "DELETE" then pure (TriggerEvent.delete, ts.drop 1)
        else if nextIs ts "UPDATE" then
          if nextIs (ts.drop 1) "OF" then do
            let (n1, ts) ← name (ts.drop 2)
            let rec more : Nat → Parser (List String)
              | 0, ts => .ok ([], ts)
              | fuel + 1, ts =>
                if nextSym ts "," then do
                  let (m, ts) ← name (ts.drop 1)
                  let (ms, ts) ← more fuel ts
                  pure (m :: ms, ts)
                else .ok ([], ts)
            let (ns, ts) ← more ts.length ts
            pure (TriggerEvent.update (n1 :: ns), ts)
          else pure (TriggerEvent.update [], ts.drop 1)
        else throw (syntaxError ts)
      let ((), ts) ← keyword "ON" ts
      let ((_, t), ts) ← qualifiedName ts
      let ts ← if nextIs ts "FOR" then do
          let ((), ts) ← keywords ["FOR", "EACH", "ROW"] ts
          pure ts
        else pure ts
      let (condition, ts) ← if nextIs ts "WHEN" then do
          let (e, ts) ← expr src (ts.drop 1)
          pure (some e, ts)
        else pure (none, ts)
      let ((), ts) ← keyword "BEGIN" ts
      let (body, ts) ← triggerBody src ts.length ts
      let trigger : Trigger := ⟨n, t, time, event, condition, body, temp || tempSchema⟩
      pure (.createTrigger ine trigger, ts)
    else if nextIs ts "INDEX" || (nextIs ts "UNIQUE" && nextIs (ts.drop 1) "INDEX") then do
      let unique := nextIs ts "UNIQUE"
      let ts := if unique then ts.drop 2 else ts.drop 1
      let (ine, ts) ← ifNotExists ts
      let ((_, n), ts) ← qualifiedName ts
      let ((), ts) ← keyword "ON" ts
      let (t, ts) ← name ts
      let ((), ts) ← symbol "(" ts
      let (cols, ts) ← keyColumns ts.length ts
      if nextIs ts "WHERE" then throw (syntaxError ts)
      pure (.createIndex ine { name := n, table := t, unique, columns := cols }, ts)
    else .error (syntaxError ts)

/-- Skips the rest of a statement that changes nothing here, up to its `;`. -/
def skipStatement (ts : List Lexeme) : List Lexeme := ts.dropWhile fun l => !l.isSym ";"

/-- Parses one statement without `EXPLAIN`. -/
def plainStatement (src : List Char) : Parser Statement
  | ts =>
    if nextIs ts "CREATE" then
      let ts := ts.drop 1
      let (temp, ts) := if nextIs ts "TEMP" || nextIs ts "TEMPORARY" then (true, ts.drop 1) else (false, ts)
      createStatement src temp ts
    else if nextIs ts "DROP" then do
      let ts := ts.drop 1
      let (kind, ts) ←
        if nextIs ts "TABLE" then pure (ObjectKind.table, ts.drop 1)
        else if nextIs ts "VIEW" then pure (ObjectKind.view, ts.drop 1)
        else if nextIs ts "TRIGGER" then pure (ObjectKind.trigger, ts.drop 1)
        else if nextIs ts "INDEX" then pure (ObjectKind.index, ts.drop 1)
        else throw (syntaxError ts)
      let (ie, ts) ← if nextIs ts "IF" then do
          let ((), ts) ← keywords ["IF", "EXISTS"] ts
          pure (true, ts)
        else pure (false, ts)
      let ((_, n), ts) ← qualifiedName ts
      pure (.drop kind ie n, ts)
    else if nextIs ts "ALTER" then do
      let ((), ts) ← keywords ["ALTER", "TABLE"] ts
      let ((_, t), ts) ← qualifiedName ts
      if nextIs ts "RENAME" then
        let ts := ts.drop 1
        if nextIs ts "TO" then do
          let (n, ts) ← name (ts.drop 1)
          pure (.alter t (.renameTable n), ts)
        else do
          let ts := if nextIs ts "COLUMN" then ts.drop 1 else ts
          let (old, ts) ← name ts
          let ((), ts) ← keyword "TO" ts
          let (new, ts) ← name ts
          pure (.alter t (.renameColumn old new), ts)
      else if nextIs ts "ADD" then do
        let ts := ts.drop 1
        let ts := if nextIs ts "COLUMN" then ts.drop 1 else ts
        let (n, ts) ← name ts
        let (type, ts) ← typeName ts.length ts
        let (c, ts) ← columnConstraints src (ts.length + 1)
          { column := { name := n, type := " ".intercalate type } } none ts
        pure (.alter t (.addColumn ⟨c.column, c.primary.isSome, !c.unique.isEmpty, c.checks⟩), ts)
      else if nextIs ts "DROP" then do
        let ts := ts.drop 1
        let ts := if nextIs ts "COLUMN" then ts.drop 1 else ts
        let (n, ts) ← name ts
        pure (.alter t (.dropColumn n), ts)
      else throw (syntaxError ts)
    else if nextIs ts "BEGIN" then
      let ts := ts.drop 1
      let ts := if nextIs ts "DEFERRED" || nextIs ts "IMMEDIATE" || nextIs ts "EXCLUSIVE" then ts.drop 1 else ts
      let ts := if nextIs ts "TRANSACTION" then ts.drop 1 else ts
      .ok (.begin, ts)
    else if nextIs ts "COMMIT" || nextIs ts "END" then
      let ts := ts.drop 1
      let ts := if nextIs ts "TRANSACTION" then ts.drop 1 else ts
      .ok (.commit, ts)
    else if nextIs ts "ROLLBACK" then
      let ts := ts.drop 1
      let ts := if nextIs ts "TRANSACTION" then ts.drop 1 else ts
      if nextIs ts "TO" then do
        let ts := ts.drop 1
        let ts := if nextIs ts "SAVEPOINT" then ts.drop 1 else ts
        let (n, ts) ← name ts
        pure (.rollback (some n), ts)
      else .ok (.rollback none, ts)
    else if nextIs ts "SAVEPOINT" then do
      let (n, ts) ← name (ts.drop 1)
      pure (.savepoint n, ts)
    else if nextIs ts "RELEASE" then do
      let ts := ts.drop 1
      let ts := if nextIs ts "SAVEPOINT" then ts.drop 1 else ts
      let (n, ts) ← name ts
      pure (.release n, ts)
    else if nextIs ts "PRAGMA" || nextIs ts "VACUUM" || nextIs ts "ANALYZE" || nextIs ts "REINDEX" then
      .ok (.noop, skipStatement ts)
    else do
      let (ctes, ts) ← if nextIs ts "WITH" then do
          let ts := ts.drop 1
          let ts := if nextIs ts "RECURSIVE" then ts.drop 1 else ts
          let (ctes, ts) ← cteList src (parseFuel ts) ts
          if let some e := duplicateCte ctes then throw e
          pure (ctes, ts)
        else pure ([], ts)
      let (d, ts) ← dml src ts
      let changes := match d with
        | .select _ => false
        | _ => true
      let (returning, ts) ← if changes && nextIs ts "RETURNING" then selectItems src (ts.drop 1) else pure ([], ts)
      pure (.dml ctes d returning, ts)

/-- Parses one statement; one under `EXPLAIN` is read but changes nothing. -/
def statement (src : List Char) : Parser Statement
  | ts =>
    if nextIs ts "EXPLAIN" then do
      let ts := ts.drop 1
      let ts := if nextIs ts "QUERY" && nextIs (ts.drop 1) "PLAN" then ts.drop 2 else ts
      let (_, ts) ← plainStatement src ts
      pure (.noop, ts)
    else plainStatement src ts

/-- The next statement of a script and the lexemes after it, skipping empty statements;
`none` at the end. A statement must be followed by `;` or the end. `fuel` bounds the empty
statements skipped. -/
def nextStatement (src : List Char) : Nat → List Lexeme → Except SqlError (Option (Statement × List Lexeme))
  | 0, _ => .ok none
  | _, [] => .ok none
  | fuel + 1, l :: rest =>
    if l.isSym ";" then nextStatement src fuel rest
    else do
      let (st, ts) ← statement src (l :: rest)
      match ts with
      | [] => pure (some (st, []))
      | m :: more =>
        if m.isSym ";" then pure (some (st, more)) else throw (syntaxError ts)

end BillOfMaterials.Sql
