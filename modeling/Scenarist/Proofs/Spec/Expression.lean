import Scenarist.Proofs.Spec.Token

/-!
# Expressions and Tests

What the tokens of a script mean: expressions made of names, literals, members, calls and records,
and a test, which is a name and the expressions that are awaited in its body one after another.

The reader takes one token after another and keeps what is open on a stack, so that reading is a
fold over the tokens (`Reader.step`). It reads calls and members as far as they go, and refuses
what is no expression of this kind.

## Main results

* `read_tokens`: **an expression is read back from its tokens**, wherever it stands.
* `readTest?_tokens`: a test is read back from its tokens.
-/

namespace Scenarist.Spec

/-- An expression of a script. -/
inductive Expr where
  | name (text : List Char)
  | literal (value : List Char)
  | member (of : Expr) (name : List Char)
  | call (callee : Expr) (arguments : List Expr)
  | record (fields : List (List Char × Expr))
deriving Repr

/-- A test: its name, and what its body awaits. -/
structure Test where
  name : List Char
  awaited : List Expr
deriving Repr

/-! ### Tokens -/

mutual

/-- The tokens of an expression. -/
def Expr.tokens : Expr → List Token
  | .name text => [.name text]
  | .literal value => [.literal value]
  | .member e name => e.tokens ++ [.sign '.', .name name]
  | .call callee arguments =>
    callee.tokens ++ .sign '(' :: argumentsTokens arguments ++ [.sign ')']
  | .record fields => .sign '{' :: fieldsTokens fields ++ [.sign '}']

/-- The tokens of arguments, with commas between them. -/
def argumentsTokens : List Expr → List Token
  | [] => []
  | [e] => e.tokens
  | e :: rest => e.tokens ++ .sign ',' :: argumentsTokens rest

/-- The tokens of fields, with commas between them. -/
def fieldsTokens : List (List Char × Expr) → List Token
  | [] => []
  | [(name, e)] => .name name :: .sign ':' :: e.tokens
  | (name, e) :: rest => .name name :: .sign ':' :: e.tokens ++ .sign ',' :: fieldsTokens rest

end

/-! ### The reader -/

/-- What is open around an expression. -/
inductive Frame where
  /-- The arguments of a call; those before this one are read. -/
  | arguments (callee : Expr) (read : List Expr)
  /-- The fields of a record; those before the one with the name are read. -/
  | fields (read : List (List Char × Expr)) (name : List Char)
deriving Repr

/-- Where the reader is in a statement, or at the end of the body. -/
inductive Position where
  | statement
  /-- An expression is expected, or the end of the arguments. -/
  | operand
  | after (e : Expr)
  | dot (e : Expr)
  /-- A field is expected, or the end of the record. -/
  | field (read : List (List Char × Expr))
  | colon (read : List (List Char × Expr)) (name : List Char)
  | brace
  | parenthesis
  | closed
deriving Repr

/-- A reader of the body of a test. -/
structure Reader where
  awaited : List Expr
  position : Position
  stack : List Frame
deriving Repr

namespace Reader

/-- Before the first statement. -/
def start : Reader := ⟨[], .statement, []⟩

/-- Reads one token. -/
def step (r : Reader) (t : Token) : Option Reader :=
  match r.position, t, r.stack with
  | .statement, .name text, stack =>
    if text = "await".toList then some ⟨r.awaited, .operand, stack⟩ else none
  | .statement, .sign '}', [] => some ⟨r.awaited, .brace, []⟩
  | .brace, .sign ')', [] => some ⟨r.awaited, .parenthesis, []⟩
  | .parenthesis, .sign ';', [] => some ⟨r.awaited, .closed, []⟩
  | .operand, .name text, stack => some ⟨r.awaited, .after (.name text), stack⟩
  | .operand, .literal value, stack => some ⟨r.awaited, .after (.literal value), stack⟩
  | .operand, .sign '{', stack => some ⟨r.awaited, .field [], stack⟩
  | .operand, .sign ')', .arguments callee read :: stack =>
    some ⟨r.awaited, .after (.call callee read), stack⟩
  | .after e, .sign '.', stack => some ⟨r.awaited, .dot e, stack⟩
  | .after e, .sign '(', stack => some ⟨r.awaited, .operand, .arguments e [] :: stack⟩
  | .after e, .sign ',', .arguments callee read :: stack =>
    some ⟨r.awaited, .operand, .arguments callee (read ++ [e]) :: stack⟩
  | .after e, .sign ')', .arguments callee read :: stack =>
    some ⟨r.awaited, .after (.call callee (read ++ [e])), stack⟩
  | .after e, .sign ',', .fields read name :: stack =>
    some ⟨r.awaited, .field (read ++ [(name, e)]), stack⟩
  | .after e, .sign '}', .fields read name :: stack =>
    some ⟨r.awaited, .after (.record (read ++ [(name, e)])), stack⟩
  | .after e, .sign ';', [] => some ⟨r.awaited ++ [e], .statement, []⟩
  | .dot e, .name text, stack => some ⟨r.awaited, .after (.member e text), stack⟩
  | .field read, .name text, stack => some ⟨r.awaited, .colon read text, stack⟩
  | .field read, .sign '}', stack => some ⟨r.awaited, .after (.record read), stack⟩
  | .colon read name, .sign ':', stack => some ⟨r.awaited, .operand, .fields read name :: stack⟩
  | _, _, _ => none

/-- Reads tokens. -/
def read (r : Reader) (tokens : List Token) : Option Reader := tokens.foldlM step r

end Reader

/-- The tokens between the name of a test and its body. -/
def functionTokens : List Token :=
  [.sign ',', .name "async".toList, .sign '(', .sign '{', .name "page".toList, .sign '}',
    .sign ')', .arrow, .sign '{']

/-- Reads a test: a call of `test` with a name and a function of the page. -/
def readTest? : List Token → Option Test
  | .name callee :: .sign '(' :: .literal name :: rest => do
    if callee = "test".toList then
      let body ← functionTokens.isPrefixOf? rest
      let r ← Reader.start.read body
      match r.position with
      | .closed => return ⟨name, r.awaited⟩
      | _ => none
    else none
  | _ => none

/-! ### Reading back -/

theorem read_append (r : Reader) (ts us : List Token) :
    r.read (ts ++ us) = (r.read ts).bind fun r => r.read us := List.foldlM_append

mutual

/-- **An expression is read back from its tokens**, wherever it stands. -/
theorem read_tokens (awaited : List Expr) (stack : List Frame) (e : Expr) :
    Reader.read ⟨awaited, .operand, stack⟩ e.tokens = some ⟨awaited, .after e, stack⟩ := by
  cases e with
  | name text => rfl
  | literal value => rfl
  | member e name =>
      rw [Expr.tokens, read_append, read_tokens awaited stack e]
      rfl
  | call callee arguments =>
      rw [Expr.tokens, List.append_assoc, read_append, read_tokens awaited stack callee]
      exact read_arguments awaited stack callee [] arguments
  | record fields =>
      exact read_fields awaited stack [] fields

/-- Arguments are read back from their tokens, after those that are read already. -/
theorem read_arguments (awaited : List Expr) (stack : List Frame) (callee : Expr)
    (done arguments : List Expr) :
    Reader.read ⟨awaited, .operand, .arguments callee done :: stack⟩
        (argumentsTokens arguments ++ [.sign ')']) =
      some ⟨awaited, .after (.call callee (done ++ arguments)), stack⟩ := by
  match arguments with
  | [] =>
      rw [List.append_nil]
      rfl
  | [e] =>
      rw [argumentsTokens, read_append, read_tokens]
      rfl
  | e :: e' :: rest =>
      rw [argumentsTokens]
      · have h := read_arguments awaited stack callee (done ++ [e]) (e' :: rest)
        rw [List.append_assoc] at h
        rw [List.append_assoc, read_append, read_tokens]
        exact h
      · simp

/-- Fields are read back from their tokens, after those that are read already. -/
theorem read_fields (awaited : List Expr) (stack : List Frame)
    (done fields : List (List Char × Expr)) :
    Reader.read ⟨awaited, .field done, stack⟩ (fieldsTokens fields ++ [.sign '}']) =
      some ⟨awaited, .after (.record (done ++ fields)), stack⟩ := by
  match fields with
  | [] =>
      rw [List.append_nil]
      rfl
  | [(name, e)] =>
      change Reader.read ⟨awaited, .operand, .fields done name :: stack⟩ (e.tokens ++ _) = _
      rw [read_append, read_tokens]
      rfl
  | (name, e) :: field :: rest =>
      rw [fieldsTokens]
      · change Reader.read ⟨awaited, .operand, .fields done name :: stack⟩
          (e.tokens ++ .sign ',' :: fieldsTokens (field :: rest) ++ _) = _
        have h := read_fields awaited stack (done ++ [(name, e)]) (field :: rest)
        rw [List.append_assoc] at h
        rw [List.append_assoc, read_append, read_tokens]
        exact h
      · simp

end

/-! ### Tests -/

/-- The tokens of the statement that awaits an expression. -/
def statementTokens (e : Expr) : List Token := .name "await".toList :: e.tokens ++ [.sign ';']

/-- The tokens of the body of a test, to the end of the test. -/
def bodyTokens (awaited : List Expr) : List Token :=
  awaited.flatMap statementTokens ++ [.sign '}', .sign ')', .sign ';']

/-- The tokens of a test. -/
def Test.tokens (t : Test) : List Token :=
  .name "test".toList :: .sign '(' :: .literal t.name :: (functionTokens ++ bodyTokens t.awaited)

theorem read_statementTokens (awaited : List Expr) (e : Expr) :
    Reader.read ⟨awaited, .statement, []⟩ (statementTokens e) =
      some ⟨awaited ++ [e], .statement, []⟩ := by
  change Reader.read ⟨awaited, .operand, []⟩ (e.tokens ++ [.sign ';']) = _
  rw [read_append, read_tokens]
  rfl

/-- **Statements are read back in order.** -/
theorem read_statements (awaited es : List Expr) :
    Reader.read ⟨awaited, .statement, []⟩ (es.flatMap statementTokens) =
      some ⟨awaited ++ es, .statement, []⟩ := by
  induction es generalizing awaited with
  | nil =>
      rw [List.append_nil]
      rfl
  | cons e es ih =>
      rw [List.flatMap_cons, read_append, read_statementTokens, Option.bind_some, ih]
      simp

/-- **A test is read back from its tokens.** -/
theorem readTest?_tokens (t : Test) : readTest? t.tokens = some t := by
  have hbody : Reader.start.read (bodyTokens t.awaited) = some ⟨t.awaited, .closed, []⟩ := by
    rw [Reader.start, bodyTokens, read_append, read_statements]
    rfl
  have hprefix : functionTokens.isPrefixOf? (functionTokens ++ bodyTokens t.awaited) =
      some (bodyTokens t.awaited) := rfl
  simp only [Test.tokens, readTest?, if_true, hprefix, hbody, Option.bind_eq_bind,
    Option.bind_some]
  rfl

end Scenarist.Spec
