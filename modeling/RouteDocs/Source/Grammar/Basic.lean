import RouteDocs.Source.Expr
import RouteDocs.Source.Token
import RouteDocs.Text.Normal

/-!
Readers of token sequences. A reader takes tokens from the front and gives a value, or nothing if the tokens do not
have the form that it asks for. The place of a token is handed on and never looked at.
-/

namespace RouteDocs.Source

/-- a reader of tokens -/
abbrev Reader (π α : Type) := StateT (List (Token π)) Option α

namespace Grammar

variable {π α : Type}

def fail : Reader π α := fun _ => none

def remaining : Reader π (List (Token π)) := fun ts => some (ts, ts)

def peek : Reader π (Option Lexeme) := fun ts => some (ts.head?.map Token.lexeme, ts)

def peekSecond : Reader π (Option Lexeme) := fun ts => some ((ts.drop 1).head?.map Token.lexeme, ts)

def here : Reader π π
  | [] => none
  | t :: ts => some (t.place, t :: ts)

def next : Reader π Lexeme
  | [] => none
  | t :: ts => some (t.lexeme, ts)

def at_ (l : Lexeme) : Reader π Bool := fun ts => some ((ts.head?.map Token.lexeme) == some l, ts)

/-- take the next token if it is this one -/
def accept (l : Lexeme) : Reader π Bool
  | [] => some (false, [])
  | t :: ts => if t.lexeme = l then some (true, ts) else some (false, t :: ts)

def expect (l : Lexeme) : Reader π Unit
  | [] => none
  | t :: ts => if t.lexeme = l then some ((), ts) else none

def op (s : String) : Reader π Unit := expect (.op s)

def word (s : String) : Reader π Unit := expect (.name s)

def atOp (s : String) : Reader π Bool := at_ (.op s)

def atWord (s : String) : Reader π Bool := at_ (.name s)

/-- take an operator if it is next -/
def acceptOp (s : String) : Reader π Bool := accept (.op s)

/-- take one of these operators if it is next -/
def acceptOpIn (names : List String) : Reader π Bool := do
  match ← peek with
  | some (.op s) =>
    if s ∈ names then
      let _ ← next
      return true
    else return false
  | _ => return false

def acceptWord (s : String) : Reader π Bool := accept (.name s)

def keywords : List String := [
  "False", "None", "True", "and", "as", "assert", "async", "await", "break", "class", "continue", "def", "del", "elif",
  "else", "except", "finally", "for", "from", "global", "if", "import", "in", "is", "lambda", "nonlocal", "not", "or",
  "pass", "raise", "return", "try", "while", "with", "yield"]

/-- take a name that is not reserved; names count in their normal form, reserved words only as they are written -/
def identifier : Reader π String := do
  match ← next with
  | .name s => if s ∈ keywords then fail else return Text.normalize s
  | _ => fail

/-- the first reader that succeeds -/
def either (p q : Reader π α) : Reader π α := fun ts => (p ts).or (q ts)

/-- what a reader gives, if it succeeds -/
def optional (p : Reader π α) : Reader π (Option α) := fun ts =>
  match p ts with
  | some (a, rest) => some (some a, rest)
  | none => some (none, ts)

/-- repeat a reader as long as it gives a value, `limit` times at most -/
def repeated (step : Reader π (Option α)) : (limit : Nat) → Reader π (List α)
  | 0 => return []
  | limit + 1 => do
    match ← step with
    | none => return []
    | some a => return a :: (← repeated step limit)

/-- repeat a reader as long as it gives a value; each value takes a token at least -/
def many (step : Reader π (Option α)) : Reader π (List α) := do
  match ← step with
  | none => return []
  | some a => return a :: (← repeated step (← remaining).length)

/-- extend a value as long as a reader has something to extend it with, `limit` times at most -/
def extended (step : α → Reader π (Option α)) : (limit : Nat) → α → Reader π α
  | 0, a => return a
  | limit + 1, a => do
    match ← step a with
    | none => return a
    | some b => extended step limit b

/-- extend a value as long as a reader has something to extend it with; each extension takes a token at least -/
def extend (step : α → Reader π (Option α)) (a : α) : Reader π α := do
  match ← step a with
  | none => return a
  | some b => extended step (← remaining).length b

/-- values with a separator between them, one at least -/
def sepBy (separator : String) (p : Reader π α) : Reader π (List α) := do
  let first ← p
  let rest ← many do
    if ← acceptOp separator then return some (← p) else return none
  return first :: rest

/-- a comma and a further value; nothing if `stop` holds after the comma -/
def further (stop : Reader π Bool) (p : Reader π α) : Reader π (Option α) := do
  if ← atOp "," then
    let ts ← remaining
    op ","
    if ← stop then
      set ts
      return none
    else return some (← p)
  else return none

/-- values separated by commas, one at least, and whether a comma ends them; no further value begins where `stop`
holds -/
def commaList (stop : Reader π Bool) (p : Reader π α) : Reader π (List α × Bool) := do
  let first ← p
  let rest ← many (further stop p)
  let trailing ← acceptOp ","
  return (first :: rest, trailing)

end Grammar

end RouteDocs.Source
