/-
Expressions that are one operand: a text, a name or a mapping between texts, before a token that goes on with nothing.

- `Reads`: a reader takes some tokens from the front and gives a value.
- `Operand`: an atom that no reader of operators adds to.
- `Operand.expression`, `Operand.stars`: what the readers of expressions give for it.
- `operand_text`, `operand_name`, `operand_mapping`: the operands of generated modules.
-/
import RouteDocs.Proofs.Text.Quoted
import RouteDocs.Source.Grammar.Expression

namespace RouteDocs.Source.Grammar

variable {π α β : Type} {ts rest : List (Token π)} {t : Token π}

/-! ## Readers -/

/-- a reader takes tokens from the front and gives a value -/
def Reads (p : Reader π α) (ts : List (Token π)) (a : α) (rest : List (Token π)) : Prop := p ts = some (a, rest)

theorem Reads.bind {p : Reader π α} {f : α → Reader π β} {a : α} {b : β} {mid : List (Token π)}
    (h : Reads p ts a mid)
    (h' : Reads (f a) mid b rest) : Reads (p >>= f) ts b rest := by
  unfold Reads at *
  change (p ts).bind (fun r => f r.1 r.2) = _
  rw [h]
  exact h'

theorem reads_pure (a : α) (ts : List (Token π)) : Reads (pure a) ts a ts := rfl

theorem reads_peek (t : Token π) (ts : List (Token π)) : Reads peek (t :: ts) (some t.lexeme) (t :: ts) := rfl

theorem reads_peekSecond (t u : Token π) (ts : List (Token π)) :
    Reads peekSecond (t :: u :: ts) (some u.lexeme) (t :: u :: ts) := rfl

theorem reads_next (t : Token π) (ts : List (Token π)) : Reads next (t :: ts) t.lexeme ts := rfl

theorem reads_remaining (ts : List (Token π)) : Reads remaining ts ts ts := rfl

theorem reads_accept_no {l : Lexeme} (h : t.lexeme ≠ l) (ts : List (Token π)) :
    Reads (accept l) (t :: ts) false (t :: ts) := if_neg h

theorem reads_accept {l : Lexeme} (h : t.lexeme = l) (ts : List (Token π)) : Reads (accept l) (t :: ts) true ts :=
  if_pos h

theorem reads_expect {l : Lexeme} (h : t.lexeme = l) (ts : List (Token π)) : Reads (expect l) (t :: ts) () ts :=
  if_pos h

theorem reads_at_no {l : Lexeme} (h : t.lexeme ≠ l) (ts : List (Token π)) :
    Reads (at_ l) (t :: ts) false (t :: ts) := by
  simp [Reads, at_, h]

theorem reads_at {l : Lexeme} (h : t.lexeme = l) (ts : List (Token π)) : Reads (at_ l) (t :: ts) true (t :: ts) := by
  simp [Reads, at_, h]

/-- nothing more is read -/
theorem reads_many_nil {step : Reader π (Option α)} (h : Reads step ts none rest) : Reads (many step) ts [] rest :=
  h.bind (reads_pure _ _)

theorem reads_repeated_nil {step : Reader π (Option α)} (limit : Nat) (h : Reads step ts none ts) :
    Reads (repeated step limit) ts [] ts := by
  cases limit with
  | zero => exact reads_pure _ _
  | succ limit => exact h.bind (reads_pure _ _)

theorem reads_repeated_cons {step : Reader π (Option α)} {a : α} {as : List α} {mid : List (Token π)} {limit : Nat}
    (h : Reads step ts (some a) mid) (hrest : Reads (repeated step limit) mid as rest) :
    Reads (repeated step (limit + 1)) ts (a :: as) rest := h.bind (hrest.bind (reads_pure _ _))

/-- a value is read, and then as many as there may be with the tokens that are left -/
theorem reads_many_cons {step : Reader π (Option α)} {a : α} {as : List α} {mid : List (Token π)}
    (h : Reads step ts (some a) mid) (hrest : Reads (repeated step mid.length) mid as rest) :
    Reads (many step) ts (a :: as) rest := h.bind ((reads_remaining _).bind (hrest.bind (reads_pure _ _)))

theorem reads_extend_same {step : α → Reader π (Option α)} {a : α} (h : Reads (step a) ts none rest) :
    Reads (extend step a) ts a rest := h.bind (reads_pure _ _)

/-! ## Operands -/

/-- the tokens after which an expression does not go on -/
def stops : List Lexeme := [.newline, .op "=", .op ":", .op ",", .op "\x7d"]

/-- the tokens before which something else than an operand begins -/
def prefixes : List Lexeme :=
  [.op "*", .op "+", .op "-", .op "~", .name "await", .name "not", .name "lambda", .name "yield"]

/-- The tokens `t :: ts` are those of an atom, with what follows it: `stop :: rest`. No operator stands before or after
the atom. -/
structure Operand (r : Rules π) (t : Token π) (ts : List (Token π)) (e : Expr) (stop : Token π)
    (rest : List (Token π)) : Prop where
  reads : Reads (atom r) (t :: ts) e (stop :: rest)
  bare : t.lexeme ∉ prefixes
  stops : stop.lexeme ∈ stops

variable {r : Rules π} {e : Expr} {stop : Token π}

theorem mem_stops {l : Lexeme} (h : t.lexeme = l) (hl : l ∈ stops) : t.lexeme ∈ stops := by rwa [h]

theorem Operand.not_accepted (h : Operand r t ts e stop rest) {l : Lexeme} (hl : l ∈ prefixes) :
    Reads (accept l) (t :: ts) false (t :: ts) := reads_accept_no (fun heq => h.bare (heq ▸ hl)) ts

theorem not_accepted_stop (h : stop.lexeme ∈ stops) {l : Lexeme} (hl : l ∉ stops) (rest : List (Token π)) :
    Reads (accept l) (stop :: rest) false (stop :: rest) :=
  reads_accept_no (fun heq : stop.lexeme = l => hl (heq ▸ h)) rest

theorem Operand.primary (h : Operand r t ts e stop rest) : Reads (primary r) (t :: ts) e (stop :: rest) := by
  refine h.reads.bind (reads_extend_same ?_)
  refine (not_accepted_stop h.stops (by decide) rest).bind ?_
  refine (not_accepted_stop h.stops (by decide) rest).bind ?_
  exact (not_accepted_stop h.stops (by decide) rest).bind (reads_pure _ _)

theorem Operand.power (h : Operand r t ts e stop rest) : Reads (power r) (t :: ts) e (stop :: rest) := by
  refine (h.not_accepted (by decide)).bind ?_
  refine h.primary.bind ?_
  exact (not_accepted_stop h.stops (by decide) rest).bind (reads_pure _ _)

theorem Operand.factor (h : Operand r t ts e stop rest) : Reads (factor r) (t :: ts) e (stop :: rest) := by
  refine (h.not_accepted (by decide)).bind ?_
  refine (h.not_accepted (by decide)).bind ?_
  exact (h.not_accepted (by decide)).bind h.power

theorem stop_op {s : String} (h : Lexeme.op s ∈ stops) : s ∈ ["=", ":", ",", "\x7d"] := by
  simpa [Grammar.stops] using h

/-- an operand with nothing to its right -/
theorem reads_leftAssoc {operators : List (String × BinaryOp)} {operand : Reader π Expr}
    (h : Reads operand (t :: ts) e (stop :: rest)) (hstop : stop.lexeme ∈ stops)
    (hno : ∀ s ∈ ["=", ":", ",", "\x7d"], operators.lookup s = none) :
    Reads (leftAssoc operators operand) (t :: ts) e (stop :: rest) := by
  refine h.bind (reads_extend_same ((reads_peek stop rest).bind ?_))
  split
  · next s heq =>
    have hs : Lexeme.op s ∈ stops := Option.some.inj heq ▸ hstop
    rw [hno s (stop_op hs)]
    exact reads_pure _ _
  · exact reads_pure _ _

theorem Operand.bitOr (h : Operand r t ts e stop rest) : Reads (bitOr r) (t :: ts) e (stop :: rest) := by
  have hterm : Reads (term r) (t :: ts) e (stop :: rest) := reads_leftAssoc h.factor h.stops (by decide)
  have hsum : Reads (sum r) (t :: ts) e (stop :: rest) := reads_leftAssoc hterm h.stops (by decide)
  have hshift : Reads (shift r) (t :: ts) e (stop :: rest) := reads_leftAssoc hsum h.stops (by decide)
  have hbitAnd : Reads (bitAnd r) (t :: ts) e (stop :: rest) := reads_leftAssoc hshift h.stops (by decide)
  have hbitXor : Reads (bitXor r) (t :: ts) e (stop :: rest) := reads_leftAssoc hbitAnd h.stops (by decide)
  exact reads_leftAssoc hbitXor h.stops (by decide)

/-- none of the tokens that end an expression compares -/
theorem reads_compareOp_none (h : stop.lexeme ∈ stops) (rest : List (Token π)) :
    Reads compareOp (stop :: rest) none (stop :: rest) := by
  obtain ⟨lexeme, place⟩ := stop
  simp only [stops, List.mem_cons, List.not_mem_nil, or_false] at h
  rcases h with rfl | rfl | rfl | rfl | rfl <;> rfl

theorem Operand.comparison (h : Operand r t ts e stop rest) : Reads (comparison r) (t :: ts) e (stop :: rest) := by
  refine h.bitOr.bind ((reads_many_nil ?_).bind (reads_pure _ _))
  exact (reads_compareOp_none h.stops rest).bind (reads_pure _ _)

theorem Operand.inversion (h : Operand r t ts e stop rest) : Reads (inversion r) (t :: ts) e (stop :: rest) :=
  (h.not_accepted (by decide)).bind h.comparison

/-- an operand without a connective to its right -/
theorem reads_connected {connective : String} {o : BoolOp} {operand : Reader π Expr}
    (h : Reads operand (t :: ts) e (stop :: rest)) (hstop : stop.lexeme ∈ stops) :
    Reads (connected connective o operand) (t :: ts) e (stop :: rest) := by
  have hno : Lexeme.name connective ∉ stops := by simp [stops]
  refine h.bind ((reads_many_nil ?_).bind (reads_pure _ _))
  exact (not_accepted_stop hstop hno rest).bind (reads_pure _ _)

theorem Operand.disjunction (h : Operand r t ts e stop rest) : Reads (disjunction r) (t :: ts) e (stop :: rest) :=
  reads_connected (reads_connected h.inversion h.stops) h.stops

theorem Operand.not_at (h : Operand r t ts e stop rest) {l : Lexeme} (hl : l ∈ prefixes) :
    Reads (at_ l) (t :: ts) false (t :: ts) := reads_at_no (fun heq => h.bare (heq ▸ hl)) ts

/-- **An operand by itself is an expression.** -/
theorem Operand.expression (h : Operand r t ts e stop rest) : Reads (expression r) (t :: ts) e (stop :: rest) := by
  refine (h.not_at (by decide)).bind ?_
  refine h.disjunction.bind ?_
  exact (not_accepted_stop h.stops (by decide) rest).bind (reads_pure _ _)

theorem Operand.starOr {p : Reader π Expr} (h : Operand r t ts e stop rest) (hp : Reads p (t :: ts) e (stop :: rest)) :
    Reads (starOr r p) (t :: ts) e (stop :: rest) := (h.not_accepted (by decide)).bind hp

/-- expressions with commas between them may be a single one -/
theorem Operand.stars (h : Operand r t ts e stop rest) (hcomma : stop.lexeme ≠ .op ",") :
    Reads (stars r) (t :: ts) e (stop :: rest) := by
  have hone : Reads (commaList endsStars (Grammar.starOr r (Grammar.expression r))) (t :: ts) ([e], false)
      (stop :: rest) := by
    refine (h.starOr h.expression).bind ?_
    refine (reads_many_nil ((reads_at_no hcomma rest).bind (reads_pure _ _))).bind ?_
    exact (reads_accept_no hcomma rest).bind (reads_pure _ _)
  exact hone.bind (reads_pure _ _)

/-! ## Texts and names -/

variable {body value : List Char}

def literal (s : List Char) : Lexeme := .text [] (Text.Quoted.body s)

def constant (s : List Char) : Expr := .constant (.str s false)

/-- a string that no other string follows -/
theorem operand_text (r : Rules π) (ht : t.lexeme = .text [] body) (hvalue : Literal.unescape body = some value)
    (hstop : stop.lexeme ∈ stops) (rest : List (Token π)) :
    Operand r t (stop :: rest) (constant value) stop rest := by
  obtain ⟨lexeme, place⟩ := t
  obtain rfl : lexeme = .text [] body := ht
  have hconstant : Literal.text? [] body = some (.str value false) := by
    simp [Literal.text?, Literal.hasMark, hvalue]
  have hpart : Reads (stringPart r) (⟨.text [] body, place⟩ :: stop :: rest) (some (constant value))
      (stop :: rest) := by
    refine (reads_peek _ _).bind ((reads_next _ _).bind ?_)
    simp only [hconstant]
    exact reads_pure _ _
  have hend : Reads (stringPart r) (stop :: rest) none (stop :: rest) := by
    obtain ⟨lexeme, place'⟩ := stop
    simp only [stops, List.mem_cons, List.not_mem_nil, or_false] at hstop
    rcases hstop with rfl | rfl | rfl | rfl | rfl <;> rfl
  have hstrings : Reads (strings r) (⟨.text [] body, place⟩ :: stop :: rest) (constant value)
      (stop :: rest) := by
    refine (reads_many_cons hpart (reads_repeated_nil _ hend)).bind ?_
    simp only [constant, joinStrings, isBytes, List.any_cons, List.any_nil, Bool.or_self, Bool.false_eq_true, if_false,
      List.flatMap_cons, List.flatMap_nil, List.append_nil]
    exact reads_pure _ _
  exact ⟨(reads_peek _ _).bind hstrings, by simp [prefixes], hstop⟩

/-- a name with no other meaning, which is its own normal form -/
structure IsPlainName (s : String) : Prop where
  notKeyword : s ∉ keywords
  notMatch : s ≠ "match"
  normal : Text.normalize s = s

theorem IsPlainName.ne {s w : String} (h : IsPlainName s) (hw : w ∈ keywords) : s ≠ w :=
  fun heq => h.notKeyword (heq ▸ hw)

theorem operand_name (r : Rules π) {s : String} (ht : t.lexeme = .name s) (hs : IsPlainName s)
    (hstop : stop.lexeme ∈ stops) (rest : List (Token π)) : Operand r t (stop :: rest) (.name s) stop rest := by
  obtain ⟨lexeme, place⟩ := t
  obtain rfl : lexeme = .name s := ht
  have hidentifier : Reads identifier (⟨.name s, place⟩ :: stop :: rest) s (stop :: rest) := by
    refine (reads_next _ _).bind ?_
    simp only [hs.notKeyword, hs.normal, if_false]
    exact reads_pure _ _
  refine ⟨(reads_peek _ _).bind ?_, ?_, hstop⟩
  · simp only [hs.ne (w := "None") (by decide), hs.ne (w := "True") (by decide), hs.ne (w := "False") (by decide),
      if_false]
    exact hidentifier.bind (reads_pure _ _)
  · simp [prefixes, hs.ne (w := "await") (by decide), hs.ne (w := "not") (by decide),
      hs.ne (w := "lambda") (by decide),
      hs.ne (w := "yield") (by decide)]

theorem literal_ne_op {s : List Char} (h : t.lexeme = literal s) (o : String) : t.lexeme ≠ .op o := by
  rw [h]
  exact nofun

theorem operand_literal (r : Rules π) {s : List Char} (ht : t.lexeme = literal s) (hstop : stop.lexeme ∈ stops)
    (rest : List (Token π)) : Operand r t (stop :: rest) (constant s) stop rest :=
  operand_text r ht (Text.Quoted.unescape_body s) hstop rest

/-- a text is read where an assignment might stand -/
theorem reads_named_literal (r : Rules π) {s : List Char} (ht : t.lexeme = literal s) (hstop : stop.lexeme ∈ stops)
    (rest : List (Token π)) : Reads (named r) (t :: stop :: rest) (constant s) (stop :: rest) := by
  have hno : stop.lexeme ≠ .op ":=" := fun heq => absurd (heq ▸ hstop) (by decide)
  refine (reads_peek t _).bind ((reads_peekSecond t stop rest).bind ?_)
  rw [ht]
  exact (operand_literal r ht hstop rest).expression.bind ((reads_at_no hno rest).bind (reads_pure _ _))

/-! ## Mappings -/

/-- the tokens of an entry: key and value with a colon between them, and a comma -/
def entryLexemes (e : List Char × List Char) : List Lexeme := [literal e.1, .op ":", literal e.2, .op ","]

def entryExpr (e : List Char × List Char) : Option Expr × Expr := (some (constant e.1), constant e.2)

variable (depth : Nat)

theorem reads_entry {k colon v : Token π} {e : List Char × List Char} (hk : k.lexeme = literal e.1)
    (hcolon : colon.lexeme = .op ":") (hv : v.lexeme = literal e.2) (hstop : stop.lexeme ∈ stops)
    (rest : List (Token π)) :
    Reads (entry (rules (depth + 1))) (k :: colon :: v :: stop :: rest) (entryExpr e) (stop :: rest) := by
  refine (reads_accept_no (literal_ne_op hk "**") _).bind ?_
  refine (operand_literal (rules depth) hk (mem_stops hcolon (by decide)) _).expression.bind ?_
  refine (reads_expect hcolon _).bind ?_
  exact (operand_literal (rules depth) hv hstop rest).expression.bind (reads_pure _ _)

/-- after the comma of an entry the mapping ends -/
theorem reads_further_none {comma close : Token π} (hcomma : comma.lexeme = .op ",")
    (hclose : close.lexeme = .op "\x7d") (rest : List (Token π)) :
    Reads (further (closing "\x7d") (entry (rules (depth + 1)))) (comma :: close :: rest) none
      (comma :: close :: rest) :=
  (reads_at hcomma _).bind ((reads_remaining _).bind ((reads_expect hcomma _).bind ((reads_at hclose _).bind rfl)))

/-- after the comma of an entry another entry follows -/
theorem reads_further_some {comma k colon v : Token π} {e : List Char × List Char} (hcomma : comma.lexeme = .op ",")
    (hk : k.lexeme = literal e.1) (hcolon : colon.lexeme = .op ":") (hv : v.lexeme = literal e.2)
    (hstop : stop.lexeme ∈ stops) (rest : List (Token π)) :
    Reads (further (closing "\x7d") (entry (rules (depth + 1)))) (comma :: k :: colon :: v :: stop :: rest)
      (some (entryExpr e)) (stop :: rest) := by
  have hno := literal_ne_op hk "\x7d"
  refine (reads_at hcomma _).bind ((reads_remaining _).bind ((reads_expect hcomma _).bind ?_))
  refine (reads_at_no hno _).bind ?_
  exact (reads_entry depth hk hcolon hv hstop rest).bind (reads_pure _ _)

variable {comma close : Token π} {entries : List (List Char × List Char)}

/-- the tokens of an entry, and those after it -/
theorem tokens_of_entry {e : List Char × List Char}
    (h : ts.map Token.lexeme = (e :: entries).flatMap entryLexemes) :
    ∃ k colon v comma ts', ts = k :: colon :: v :: comma :: ts' ∧ k.lexeme = literal e.1 ∧
    colon.lexeme = .op ":" ∧
      v.lexeme = literal e.2 ∧ comma.lexeme = .op "," ∧ ts'.map Token.lexeme = entries.flatMap entryLexemes := by
  rw [List.flatMap_cons] at h
  rcases ts with _ | ⟨k, _ | ⟨colon, _ | ⟨v, _ | ⟨comma, ts'⟩⟩⟩⟩ <;> simp [entryLexemes] at h
  exact ⟨k, colon, v, comma, ts', rfl, h.1, h.2.1, h.2.2.1, h.2.2.2.1, h.2.2.2.2⟩

theorem reads_entries (hcomma : comma.lexeme = .op ",") (hclose : close.lexeme = .op "\x7d")
    (hts : ts.map Token.lexeme = entries.flatMap entryLexemes) {limit : Nat} (hlimit : entries.length ≤ limit) :
    ∃ last, last.lexeme = .op "," ∧ Reads (repeated (further (closing "\x7d") (entry (rules (depth + 1)))) limit)
      (comma :: (ts ++ close :: rest)) (entries.map entryExpr) (last :: close :: rest) := by
  induction entries generalizing ts comma limit with
  | nil =>
    obtain rfl := List.map_eq_nil_iff.1 hts
    exact ⟨comma, hcomma, reads_repeated_nil limit (reads_further_none depth hcomma hclose rest)⟩
  | cons e entries ih =>
    obtain ⟨limit, rfl⟩ : ∃ l, limit = l + 1 := ⟨limit - 1, by simp at hlimit; omega⟩
    obtain ⟨k, colon, v, comma', ts', rfl, hk, hcolon, hv, hcomma', hts'⟩ := tokens_of_entry hts
    obtain ⟨last, hlast, hreads⟩ := ih hcomma' hts' (Nat.le_of_succ_le_succ hlimit)
    exact ⟨last, hlast,
      reads_repeated_cons (reads_further_some depth hcomma hk hcolon hv (mem_stops hcomma' (by decide)) _) hreads⟩

theorem length_le_of_entries (h : ts.map Token.lexeme = entries.flatMap entryLexemes) :
    entries.length ≤ ts.length := by
  have hlength := congrArg List.length h
  rw [List.length_map, List.length_flatMap] at hlength
  have hfour : entries.map (fun e => (entryLexemes e).length) = entries.map fun _ => 4 := rfl
  rw [hfour, List.map_const', List.sum_replicate_nat] at hlength
  omega

/-- all entries after a comma -/
theorem reads_many_entries (hcomma : comma.lexeme = .op ",") (hclose : close.lexeme = .op "\x7d")
    (hts : ts.map Token.lexeme = entries.flatMap entryLexemes) :
    ∃ last, last.lexeme = .op "," ∧ Reads (many (further (closing "\x7d") (entry (rules (depth + 1)))))
      (comma :: (ts ++ close :: rest)) (entries.map entryExpr) (last :: close :: rest) := by
  cases entries with
  | nil =>
    obtain rfl := List.map_eq_nil_iff.1 hts
    exact ⟨comma, hcomma, reads_many_nil (reads_further_none depth hcomma hclose rest)⟩
  | cons e entries =>
    obtain ⟨k, colon, v, comma', ts', rfl, hk, hcolon, hv, hcomma', hts'⟩ := tokens_of_entry hts
    have hlimit : entries.length ≤ (comma' :: (ts' ++ close :: rest)).length := by
      have hlength := length_le_of_entries hts'
      simp
      omega
    obtain ⟨last, hlast, hreads⟩ := reads_entries depth hcomma' hclose hts' hlimit
    exact ⟨last, hlast,
      reads_many_cons (reads_further_some depth hcomma hk hcolon hv (mem_stops hcomma' (by decide)) _) hreads⟩

/-- the entries after the first one -/
theorem reads_more (hcomma : comma.lexeme = .op ",") (hclose : close.lexeme = .op "\x7d")
    (hts : ts.map Token.lexeme = entries.flatMap entryLexemes) :
    Reads (more "\x7d" (entry (rules (depth + 1)))) (comma :: (ts ++ close :: rest)) (entries.map entryExpr) rest := by
  refine (reads_accept hcomma _).bind ?_
  cases entries with
  | nil =>
    obtain rfl := List.map_eq_nil_iff.1 hts
    exact (reads_accept hclose _).bind (reads_pure _ _)
  | cons e entries =>
    obtain ⟨k, colon, v, comma', ts', rfl, hk, hcolon, hv, hcomma', hts'⟩ := tokens_of_entry hts
    have hfirst := reads_entry depth hk hcolon hv (mem_stops hcomma' (by decide)) (ts' ++ close :: rest)
    obtain ⟨last, hlast, hmany⟩ := reads_many_entries depth hcomma' hclose hts'
    have hlist : Reads (commaList (closing "\x7d") (entry (rules (depth + 1))))
        (k :: colon :: v :: comma' :: (ts' ++ close :: rest)) ((e :: entries).map entryExpr, true) (close :: rest) :=
      hfirst.bind (hmany.bind ((reads_accept hlast _).bind (reads_pure _ _)))
    refine (reads_accept_no (literal_ne_op hk "\x7d") _).bind ?_
    exact hlist.bind ((reads_expect hclose _).bind (reads_pure _ _))

/-- **A mapping between texts is an operand.** -/
theorem operand_mapping {opening : Token π} (hopen : opening.lexeme = .op "\x7b") (hclose : close.lexeme = .op "\x7d")
    (hts : ts.map Token.lexeme = entries.flatMap entryLexemes) (hstop : stop.lexeme ∈ stops)
    (rest : List (Token π)) :
    Operand (rules (depth + 2)) opening (ts ++ close :: stop :: rest) (.dict (entries.map entryExpr)) stop rest := by
  have hbraces : Reads (braces (rules (depth + 2))) (opening :: (ts ++ close :: stop :: rest))
      (.dict (entries.map entryExpr)) (stop :: rest) := by
    refine (reads_expect hopen _).bind ?_
    cases entries with
    | nil =>
      obtain rfl := List.map_eq_nil_iff.1 hts
      exact (reads_accept hclose _).bind (reads_pure _ _)
    | cons e entries =>
      obtain ⟨k, colon, v, comma, ts', rfl, hk, hcolon, hv, hcomma, hts'⟩ := tokens_of_entry hts
      have hne := literal_ne_op hk
      have hcolonStop : colon.lexeme ∈ stops := mem_stops hcolon (by decide)
      have hcommaStop : comma.lexeme ∈ stops := mem_stops hcomma (by decide)
      have hkey := operand_literal (rules (depth + 2)) hk hcolonStop (v :: comma :: (ts' ++ close :: stop :: rest))
      have hvalue := operand_literal (rules (depth + 1)) hv hcommaStop (ts' ++ close :: stop :: rest)
      have hnotNamed : Reads atNamed (k :: colon :: v :: comma :: (ts' ++ close :: stop :: rest)) false
          (k :: colon :: v :: comma :: (ts' ++ close :: stop :: rest)) := by
        refine (reads_peek _ _).bind ((reads_peekSecond _ _ _).bind ?_)
        rw [hk]
        exact reads_pure _ _
      have hnoClause : Reads atClause (comma :: (ts' ++ close :: stop :: rest)) false
          (comma :: (ts' ++ close :: stop :: rest)) := by
        refine (reads_peek _ _).bind ?_
        rw [hcomma]
        exact reads_pure _ _
      refine (reads_accept_no (hne _) _).bind ((reads_at_no (hne _) _).bind (hnotNamed.bind ?_))
      refine (hkey.starOr (reads_named_literal (rules (depth + 1)) hk hcolonStop _)).bind ?_
      have hkeyed : (!false && !isStarred (constant e.1)) = true := rfl
      rw [if_pos hkeyed]
      refine (reads_accept hcolon _).bind (hvalue.expression.bind (hnoClause.bind ?_))
      exact (reads_more (depth + 1) hcomma hclose hts').bind (reads_pure _ _)
  refine ⟨(reads_peek _ _).bind ?_, by rw [hopen]; decide, hstop⟩
  rw [hopen]
  exact hbraces

end RouteDocs.Source.Grammar
