/-
Lines that hold a text or assign an operand to a name, and modules of such lines.

- `Line`: such a line, the tokens of it and the statement that it is.
- `reads_statement`: what the reader of statements gives for a line.
- `module?_of_lines`: what the reader of modules gives for several.
-/
import RouteDocs.Proofs.Source.Operand
import RouteDocs.Source.Grammar.Statement

namespace RouteDocs.Source.Grammar

variable {π : Type} {ts rest : List (Token π)} {t stop : Token π} {r : Rules π} {e : Expr}

/-! ## Simple statements -/

theorem Operand.starsOrYield (h : Operand r t ts e stop rest) (hcomma : stop.lexeme ≠ .op ",") :
    Reads (starsOrYield r) (t :: ts) e (stop :: rest) := (h.not_at (by decide)).bind (h.stars hcomma)

/-- an operand by itself -/
theorem Operand.expressionStatement (h : Operand r t ts e stop rest) (hstop : stop.lexeme = .newline) :
    Reads (expressionStatement r) (t :: ts) (.expression e) (stop :: rest) := by
  refine (h.starsOrYield (by rw [hstop]; exact nofun)).bind ((reads_peek _ _).bind ?_)
  rw [hstop]
  exact reads_pure _ _

/-- a name, an equals sign and an operand -/
theorem reads_assignment {name equals : Token π} {s : String} (hname : name.lexeme = .name s) (hs : IsPlainName s)
    (hequals : equals.lexeme = .op "=") (h : Operand r t ts e stop rest) (hstop : stop.lexeme = .newline) :
    Reads (expressionStatement r) (name :: equals :: t :: ts) (.assigned [.name s] e) (stop :: rest) := by
  have htarget := operand_name r hname hs (mem_stops hequals (by decide)) (t :: ts)
  have hvalues : Reads (assignedValues r) (equals :: t :: ts) [e] (stop :: rest) := by
    refine reads_many_cons ?_ (reads_repeated_nil _ ?_)
    · exact (reads_accept hequals _).bind
        ((h.starsOrYield (by rw [hstop]; exact nofun)).bind (reads_pure _ _))
    · exact (reads_accept_no (by rw [hstop]; exact nofun) _).bind (reads_pure _ _)
  refine (htarget.starsOrYield (by rw [hequals]; decide)).bind ((reads_peek _ _).bind ?_)
  rw [hequals]
  exact hvalues.bind (reads_pure _ _)

theorem keywordStatement_none (r : Rules π) {s : String} (hs : IsPlainName s) : keywordStatement r s = none := by
  unfold keywordStatement
  split
  case h_12 => rfl
  all_goals exact absurd rfl (hs.ne (by decide))

/-- one statement on a line -/
theorem reads_simpleStatements {s : Stmt π} (h : Reads (simpleStatement r) (t :: ts) s (stop :: rest))
    (hstop : stop.lexeme = .newline) : Reads (simpleStatements r) (t :: ts) [s] rest := by
  have hno : stop.lexeme ≠ .op ";" := by rw [hstop]; exact nofun
  have hend : Reads (many (do
      if ← acceptOp ";" then
        if ← at_ .newline then return some [] else return some [← simpleStatement r]
      else return none)) (stop :: rest) [] (stop :: rest) :=
    reads_many_nil ((reads_accept_no hno _).bind (reads_pure _ _))
  exact h.bind (hend.bind ((reads_expect hstop _).bind (reads_pure _ _)))

/-! ## Lines -/

/-- a line with a text by itself -/
theorem reads_textLine (depth : Nat) {body : List Char} (ht : t.lexeme = .text [] body) (h : Operand r t ts e stop rest)
    (hstop : stop.lexeme = .newline) : Reads (statement r (depth + 1)) (t :: ts) [.expression e] rest := by
  have hsimple : Reads (simpleStatement r) (t :: ts) (.expression e) (stop :: rest) := by
    refine (reads_peek _ _).bind ?_
    rw [ht]
    exact h.expressionStatement hstop
  have hstatement : Reads (statementWith r (depth + 1) (blockWith r (statement r depth))) (t :: ts) [.expression e]
      rest := by
    refine (reads_peek _ _).bind ?_
    rw [ht]
    exact reads_simpleStatements hsimple hstop
  exact hstatement

/-- a line with an assignment -/
theorem reads_assignmentLine (depth : Nat) {name equals : Token π} {s : String} (hname : name.lexeme = .name s)
    (hs : IsPlainName s) (hequals : equals.lexeme = .op "=") (h : Operand r t ts e stop rest)
    (hstop : stop.lexeme = .newline) :
    Reads (statement r (depth + 1)) (name :: equals :: t :: ts) [.assigned [.name s] e] rest := by
  have hsimple : Reads (simpleStatement r) (name :: equals :: t :: ts) (.assigned [.name s] e) (stop :: rest) := by
    refine (reads_peek _ _).bind ?_
    rw [hname]
    simp only [keywordStatement_none r hs]
    exact reads_assignment hname hs hequals h hstop
  have hstatement : Reads (statementWith r (depth + 1) (blockWith r (statement r depth)))
      (name :: equals :: t :: ts) [.assigned [.name s] e] rest := by
    refine (reads_peek _ _).bind ?_
    rw [hname]
    dsimp only
    split
    case h_9 => exact absurd rfl hs.notMatch
    case h_10 => exact reads_simpleStatements hsimple hstop
    all_goals exact absurd rfl (hs.ne (by decide))
  exact hstatement

/-! ## Modules -/

theorem reads_moduleLine {depth : Nat} {ss : List (Stmt π)} (h : Reads (statement r depth) (t :: ts) ss rest) :
    Reads (moduleLine r depth) (t :: ts) (some ss) rest := (reads_peek _ _).bind (h.bind (reads_pure _ _))

/-- the tokens of a module that begins with a text and gives a name a text, and another name a mapping -/
def constantLexemes (header : List Char) (name : String) (text : List Char) (mappingName : String)
    (entries : List (List Char × List Char)) : List Lexeme :=
  .text [] header :: .newline :: .name name :: .op "=" :: literal text :: .newline :: .name mappingName :: .op "=" ::
    .op "\x7b" :: (entries.flatMap entryLexemes ++ [.op "\x7d", .newline])

variable {header value text : List Char} {name mappingName : String} {entries : List (List Char × List Char)}

/-- **The statements of such a module.** -/
theorem module?_of_constants (hheader : Literal.unescape header = some value) (hname : IsPlainName name)
    (hmapping : IsPlainName mappingName)
    (h : ts.map Token.lexeme = constantLexemes header name text mappingName entries) :
    module? ts = some [.expression (constant value), .assigned [.name name] (constant text),
      .assigned [.name mappingName] (.dict (entries.map entryExpr))] := by
  unfold constantLexemes at h
  rcases ts with _ | ⟨t₁, _ | ⟨t₂, _ | ⟨t₃,
    _ | ⟨t₄, _ | ⟨t₅, _ | ⟨t₆, _ | ⟨t₇, _ | ⟨t₈, _ | ⟨t₉, ts⟩⟩⟩⟩⟩⟩⟩⟩⟩ <;>
    simp only [List.map_cons, List.map_nil, List.cons.injEq, reduceCtorEq, and_false] at h
  obtain ⟨h₁, h₂, h₃, h₄, h₅, h₆, h₇, h₈, h₉, hrest⟩ := h
  obtain ⟨ts', tail, rfl, hts', htail⟩ := List.map_eq_append_iff.1 hrest
  rcases tail with _ | ⟨close, _ | ⟨last, _ | ⟨_, _⟩⟩⟩ <;>
    simp only [List.map_cons, List.map_nil, List.cons.injEq, reduceCtorEq, and_false, and_true] at htail
  obtain ⟨hclose, hlast⟩ := htail
  have hnewline {t : Token π} (ht : t.lexeme = .newline) : t.lexeme ∈ stops := mem_stops ht (by decide)
  -- the depth that is allowed is more than a mapping needs
  obtain ⟨depth, hdepth⟩ : ∃ d, (t₁ :: t₂ :: t₃ :: t₄ :: t₅ :: t₆ :: t₇ :: t₈ :: t₉ ::
      (ts' ++ [close, last])).length + 1 = d + 2 := ⟨_, rfl⟩
  have hfirst := reads_textLine (depth + 1) h₁
    (operand_text (rules (depth + 2)) h₁ hheader (hnewline h₂)
      (t₃ :: t₄ :: t₅ :: t₆ :: t₇ :: t₈ :: t₉ :: (ts' ++ [close, last]))) h₂
  have hsecond := reads_assignmentLine (depth + 1) h₃ hname h₄
    (operand_literal (rules (depth + 2)) h₅ (hnewline h₆) (t₇ :: t₈ :: t₉ :: (ts' ++ [close, last]))) h₆
  have hthird := reads_assignmentLine (depth + 1) h₇ hmapping h₈
    (operand_mapping depth h₉ hclose hts' (hnewline hlast) []) hlast
  have hlines := reads_many_cons (reads_moduleLine hfirst) (reads_repeated_cons (reads_moduleLine hsecond)
    (reads_repeated_cons (reads_moduleLine hthird) (reads_repeated_nil _ rfl)))
  have hbody : Reads (moduleBody (rules (depth + 2)) (depth + 2))
      (t₁ :: t₂ :: t₃ :: t₄ :: t₅ :: t₆ :: t₇ :: t₈ :: t₉ :: (ts' ++ [close, last]))
      [.expression (constant value), .assigned [.name name] (constant text),
        .assigned [.name mappingName] (.dict (entries.map entryExpr))] [] := hlines.bind (reads_pure _ _)
  unfold Reads at hbody
  unfold module?
  simp only [hdepth, hbody]

end RouteDocs.Source.Grammar
