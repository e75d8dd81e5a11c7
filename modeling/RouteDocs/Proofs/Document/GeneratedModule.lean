/-
The generated module, read as a source text, holds the documents that it was made of.

- `lexes_module`: the tokens of the module, line after line.
- `constants?_renderModule`: the values of its two names are the texts that were rendered.
- `renderModule_decodes`: these texts hold the documents.
-/
import RouteDocs.Proofs.Document.Wire
import RouteDocs.Proofs.OrderedMap
import RouteDocs.Proofs.Source.Assignments
import RouteDocs.Proofs.Source.Lexing
import RouteDocs.Source.Constants

namespace RouteDocs

open Source Text Grammar

/-! ## The text of a module -/

/-- the text at the beginning of a generated module -/
def headerText : List Char := "This file is generated automatically. Do not edit it manually.".toList

/-- the name of the listing -/
def listingName : String := "RESOURCE_LISTING"

/-- the name of the mapping from resources to declarations -/
def descriptionsName : String := "API_DESCRIPTIONS"

/-- the line of an entry of the mapping, and what comes after it -/
def entryLine (e : List Char × List Char) (rest : List Char) : List Char :=
  ' ' :: ' ' :: ' ' :: ' ' :: (Quoted.encode e.1 ++ ':' :: ' ' :: (Quoted.encode e.2 ++ ',' :: '\n' :: rest))

def moduleText (listing : List Char) (entries : List (List Char × List Char)) : List Char :=
  '"' :: '"' :: '"' :: (headerText ++ '"' :: '"' :: '"' :: '\n' :: '\n' ::
    (listingName.toList ++ ' ' :: '=' :: ' ' :: (Quoted.encode listing ++ '\n' :: '\n' ::
      (descriptionsName.toList ++ ' ' :: '=' :: ' ' :: '\x7b' :: '\n' :: entries.foldr entryLine ['\x7d', '\n']))))

/-- the entries of a map as lists of characters -/
def characters (e : String × String) : List Char × List Char := (e.1.toList, e.2.toList)

theorem toList_renderModule (texts : DocumentTexts) : (renderModule texts).toList
    = moduleText texts.listing.toList ((texts.descriptions.sortKeys textLe).entries.map characters) := by
  have hheader : moduleHeader.toList = '"' :: '"' :: '"' :: (headerText ++ ['"', '"', '"', '\n', '\n']) := by
    decide +kernel
  have hlines (entries : List (String × String)) (rest : List Char) :
      (entries.map fun e => descriptionLine e.1 e.2).flatMap String.toList ++ rest
        = (entries.map characters).foldr entryLine rest := by
    induction entries with
    | nil => rfl
    | cons e entries ih => simp [descriptionLine, quoted, characters, entryLine, ← ih]
  simp [renderModule, moduleText, hheader, quoted, ← hlines, listingName, descriptionsName]

/-! ## Tokens -/

theorem not_quote (c : Char) (s rest : List Char) (hsingle : c ≠ '\'') (hdouble : c ≠ '"') :
    (c :: rest).head? ≠ some (Quoted.quoteFor s) := by
  intro heq
  rcases Quoted.isQuote_quoteFor s with h | h
  · exact hsingle ((Option.some.inj heq).trans h)
  · exact hdouble ((Option.some.inj heq).trans h)

theorem isMargin_quoteFor (s : List Char) : isMargin (Quoted.quoteFor s) = false := by
  rcases Quoted.isQuote_quoteFor s with h | h <;> (rw [h]; rfl)

/-- the tokens of a line of the mapping -/
theorem lexes_entryLine (e : List Char × List Char) (rest : List Char) :
    Lexes true ["\x7b"] (entryLine e rest) (entryLexemes e) true ["\x7b"] rest := by
  have hstart := lexes_innerLine (isMargin_quoteFor e.1) "\x7b" [] (Quoted.body e.1 ++ Quoted.quoteFor e.1 ::
    (':' :: ' ' :: (Quoted.encode e.2 ++ ',' :: '\n' :: rest)))
  rw [← Quoted.encode_append] at hstart
  have hkey := lexes_literal gap_nil e.1
    (not_quote ':' e.1 (' ' :: (Quoted.encode e.2 ++ ',' :: '\n' :: rest)) (by decide) (by decide)) ["\x7b"]
  have hcolon := lexes_colon gap_nil ["\x7b"] (Quoted.encode e.2 ++ ',' :: '\n' :: rest)
  have hvalue := lexes_literal gap_blank e.2 (not_quote ',' e.2 ('\n' :: rest) (by decide) (by decide)) ["\x7b"]
  have hcomma := lexes_comma gap_nil ["\x7b"] ('\n' :: rest)
  have hend := lexes_lineEnd ["\x7b"] rest
  exact hstart.trans (hkey.trans (hcolon.trans (hvalue.trans (hcomma.trans hend))))

theorem lexes_entryLines (entries : List (List Char × List Char)) (rest : List Char) :
    Lexes true ["\x7b"] (entries.foldr entryLine rest) (entries.flatMap entryLexemes) true ["\x7b"] rest := by
  induction entries with
  | nil => exact Lexes.refl _ _ _
  | cons e entries ih => exact (lexes_entryLine e _).trans ih

theorem lexes_header (rest : List Char) :
    Lexes true [] ('"' :: '"' :: '"' :: (headerText ++ '"' :: '"' :: '"' :: '\n' :: '\n' :: rest))
      [.text [] headerText, .newline] true [] rest := by
  have hplain : headerText.all (fun c => c != '\\' && c != '"') = true := rfl
  have htext := lexes_longText hplain [] ('\n' :: '\n' :: rest)
  exact (lexes_lineStart rfl [] _).trans (htext.trans ((lexes_lineEnd [] _).trans (lexes_emptyLine [] rest)))

theorem lexes_listing (listing rest : List Char) :
    Lexes true [] (listingName.toList ++ ' ' :: '=' :: ' ' :: (Quoted.encode listing ++ '\n' :: '\n' :: rest))
      [.name listingName, .op "=", literal listing, .newline] true [] rest := by
  have hname : isNameToken listingName.toList = true := by decide
  have htext := lexes_literal gap_blank listing (not_quote '\n' listing ('\n' :: rest) (by decide) (by decide)) []
  exact (lexes_nameLine hname rfl [] _).trans ((lexes_equals gap_blank [] _).trans
    (htext.trans ((lexes_lineEnd [] _).trans (lexes_emptyLine [] rest))))

theorem lexes_descriptions (entries : List (List Char × List Char)) :
    Lexes true []
      (descriptionsName.toList ++ ' ' :: '=' :: ' ' :: '\x7b' :: '\n' :: entries.foldr entryLine ['\x7d', '\n'])
      (.name descriptionsName :: .op "=" :: .op "\x7b" :: (entries.flatMap entryLexemes ++ [.op "\x7d", .newline]))
      true [] [] := by
  have hname : isNameToken descriptionsName.toList = true := by decide
  have hend := (lexes_lineStart (c := '\x7d') rfl ["\x7b"] ['\n']).trans
    ((lexes_closeBrace gap_nil ['\n']).trans (lexes_lineEnd [] []))
  exact (lexes_nameLine hname rfl [] _).trans ((lexes_equals gap_blank [] _).trans ((lexes_openBrace gap_blank _).trans
    ((lexes_lineEnd ["\x7b"] _).trans ((lexes_entryLines entries _).trans hend))))

/-- **The tokens of a generated module.** -/
theorem lexes_module (listing : List Char) (entries : List (List Char × List Char)) :
    Lexes true [] (moduleText listing entries)
      (constantLexemes headerText listingName listing descriptionsName entries) true [] [] :=
  (lexes_header _).trans ((lexes_listing listing _).trans (lexes_descriptions entries))

/-! ## Characters -/

/-- has the character a glyph, or does it end a line? -/
def isVisible (c : Char) : Bool := c == '\n' || isPrintable c

theorem all_isVisible_encode (s : List Char) : (Quoted.encode s).all isVisible = true :=
  List.all_eq_true.2 fun _ hc => Bool.or_eq_true_iff.2 (Or.inr (Quoted.isPrintable_encode hc))

/-- everything in a generated module is visible -/
theorem all_isVisible_moduleText (listing : List Char) (entries : List (List Char × List Char)) :
    (moduleText listing entries).all isVisible = true := by
  have hentries : (entries.foldr entryLine ['\x7d', '\n']).all isVisible = true := by
    induction entries with
    | nil => rfl
    | cons e entries ih =>
      simp only [List.foldr_cons, entryLine, List.all_cons, List.all_append, all_isVisible_encode, ih]
      rfl
  have hheader : headerText.all isVisible = true := rfl
  have hlisting : listingName.toList.all isVisible = true := rfl
  have hdescriptions : descriptionsName.toList.all isVisible = true := rfl
  simp only [moduleText, List.all_cons, List.all_append, all_isVisible_encode, hentries, hheader, hlisting,
    hdescriptions]
  rfl

theorem not_mem_moduleText {c : Char} (hc : isVisible c = false) (listing : List Char)
    (entries : List (List Char × List Char)) : c ∉ moduleText listing entries := by
  intro hmem
  have hvisible := List.all_eq_true.1 (all_isVisible_moduleText listing entries) c hmem
  rw [hc] at hvisible
  cases hvisible

theorem getLast?_moduleText (listing : List Char) (entries : List (List Char × List Char)) :
    (moduleText listing entries).getLast? = some '\n' := by
  have hentries : (entries.foldr entryLine ['\x7d', '\n']).getLast? = some '\n' := by
    induction entries with
    | nil => rfl
    | cons e entries ih => simp [entryLine, List.getLast?_cons, List.getLast?_append, ih]
  simp [moduleText, List.getLast?_cons, List.getLast?_append, hentries]

/-! ## Values -/

theorem map_lexeme_locate (ts : List (Token Nat)) : (locate ts).map Token.lexeme = ts.map Token.lexeme := by
  rw [locate, List.map_map]
  conv_rhs => rw [← List.attach_map_subtype_val ts, List.map_map]
  rfl

theorem parse_moduleText (listing : List Char) (entries : List (List Char × List Char)) :
    ∃ ts, parse (moduleText listing entries) = .ok ⟨ts, [.expression (constant headerText),
      .assigned [.name listingName] (constant listing),
      .assigned [.name descriptionsName] (.dict (entries.map entryExpr))]⟩ := by
  have hnull : (moduleText listing entries).contains '\x00' = false := by
    rw [List.contains_eq_mem, decide_eq_false_iff_not]
    exact not_mem_moduleText (by decide) listing entries
  obtain ⟨ts, htokens, hlexemes⟩ := tokens?_of_lexes (not_mem_moduleText (by decide) listing entries)
    (getLast?_moduleText listing entries) (lexes_module listing entries)
  have hheader : Literal.unescape headerText = some headerText := by decide
  have hlisting : IsPlainName listingName := ⟨by decide, by decide, by decide +kernel⟩
  have hdescriptions : IsPlainName descriptionsName := ⟨by decide, by decide, by decide +kernel⟩
  have hmodule := module?_of_constants hheader hlisting hdescriptions ((map_lexeme_locate ts).trans hlexemes)
  refine ⟨ts, ?_⟩
  rw [parse, hnull]
  simp only [Bool.false_eq_true, if_false, htokens, hmodule]

theorem textPairs?_entries (entries : List (String × String)) :
    ((entries.map characters).map entryExpr).mapM textPair? = some entries := by
  induction entries with
  | nil => rfl
  | cons e entries ih =>
    have he : textPair? (entryExpr (characters e)) = some e := by
      simp [characters, entryExpr, textPair?, constant, Expr.text?]
    rw [List.map_cons, List.map_cons, List.mapM_cons, he, ih]
    rfl

variable {π : Type}

theorem carryOut?_constant (names : OrderedMap String Value) (s : List Char) :
    carryOut? names (.expression (constant s) : Stmt π) = some names := rfl

theorem carryOut?_assigned (names : OrderedMap String Value) (s : String) {e : Expr} {value : Value}
    (h : e.value? = some value) : carryOut? names (.assigned [.name s] e : Stmt π) = some (names.insert s value) := by
  simp [carryOut?, h, bind?]

/-- **The names of a generated module** stand for the texts that it was made of, the descriptions sorted. -/
theorem constants?_renderModule (texts : DocumentTexts) :
    ∃ names, constants? (renderModule texts).toList = some names ∧ names.entries =
      [(listingName, .text texts.listing), (descriptionsName, .mapping (texts.descriptions.sortKeys textLe))] := by
  obtain ⟨ts, hparse⟩ := parse_moduleText texts.listing.toList
    ((texts.descriptions.sortKeys textLe).entries.map characters)
  have hlisting : (constant texts.listing.toList).value? = some (.text texts.listing) := by
    simp [constant, Expr.value?, Expr.text?]
  have hdescriptions : (Expr.dict (((texts.descriptions.sortKeys textLe).entries.map characters).map entryExpr)).value?
      = some (.mapping (texts.descriptions.sortKeys textLe)) := by
    have hmap : OrderedMap.ofList (texts.descriptions.sortKeys textLe).entries = texts.descriptions.sortKeys textLe :=
      OrderedMap.ext_entries (OrderedMap.entries_ofList (texts.descriptions.sortKeys textLe).distinct)
    rw [Expr.value?, textPairs?_entries, Option.map_some, hmap]
  refine ⟨(OrderedMap.insert ∅ listingName (.text texts.listing)).insert descriptionsName
    (.mapping (texts.descriptions.sortKeys textLe)), ?_, rfl⟩
  rw [toList_renderModule, constants?, hparse]
  simp only [List.foldlM_cons, carryOut?_constant, carryOut?_assigned _ _ hlisting,
    carryOut?_assigned _ _ hdescriptions, List.foldlM_nil]
  rfl

/-! ## Documents -/

/-- **A generated module holds the documents that it was made of.** Read as a source text it gives two names their
values: a text, and a mapping with the keys of the declarations, each once and in their order. The texts are those of
the documents as trees, with the members of objects in the same order. -/
theorem renderModule_decodes (l : Listing) (ds : OrderedMap String Declaration)
    (h : ∀ d ∈ ds.values, d.isPlain = true) :
    ∃ names listing descriptions, constants? (renderModule (renderDocuments l ds)).toList = some names ∧
      names.entries = [("RESOURCE_LISTING", .text listing), ("API_DESCRIPTIONS", .mapping descriptions)] ∧
      Json.parse? listing = some (wire l) ∧
      descriptions.keys.Pairwise (· < ·) ∧ (∀ key, key ∈ descriptions.keys ↔ key ∈ ds.keys) ∧
      ∀ key d, ds.get? key = some d →
        ∃ text, descriptions.get? key = some text ∧ Json.parse? text = some (wire d) := by
  obtain ⟨names, hnames, hentries⟩ := constants?_renderModule (renderDocuments l ds)
  refine ⟨names, _, _, hnames, hentries, parse?_renderDocument (isPlain_wire_listing l), OrderedMap.strict_sortKeys _,
    fun key => ?_, fun key d hd => ?_⟩
  · rw [OrderedMap.mem_keys_sortKeys, renderDocuments, OrderedMap.keys_mapValues, OrderedMap.mem_keys_sortKeys]
  · have hplain : d.isPlain = true := h d (OrderedMap.mem_values.2 ⟨key, hd⟩)
    refine ⟨renderDocument d, ?_, parse?_renderDocument (isPlain_wire_declaration hplain)⟩
    rw [OrderedMap.get?_sortKeys, renderDocuments, OrderedMap.get?_mapValues, OrderedMap.get?_sortKeys, hd,
      Option.map_some]

/-- a text that holds both quotes, a backslash, line ends, the null character, and characters outside of ASCII with
and without a glyph -/
def unruly : String := "it's \"so\" \\n\n\r\t\x00\x7f\u00e9\u2028𝄞"

/-- a declaration with such texts everywhere, empty containers and free-form authorizations -/
def unrulyDeclaration : Declaration where
  apiVersion := unruly
  swaggerVersion := swaggerVersion
  basePath := ""
  resourcePath := unruly
  apis := [⟨unruly, "", [{
    path := unruly
    responses := [⟨-404, unruly, none⟩]
    authorizations := [[], [(unruly, .arr [.null, .obj [], .obj [("'", .bool true), ("\"", .str unruly)]])]] }]⟩]
  models := ∅

theorem renderModule_decodes_unruly :
    ∃ names listing descriptions, constants? (renderModule (renderDocuments
        ⟨unruly, swaggerVersion, "", [⟨unruly, ""⟩], ∅⟩
        (.ofList [(unruly, unrulyDeclaration), ("", unrulyDeclaration)]))).toList = some names ∧
      names.entries = [("RESOURCE_LISTING", .text listing), ("API_DESCRIPTIONS", .mapping descriptions)] ∧
      Json.parse? listing = some (wire (⟨unruly, swaggerVersion, "", [⟨unruly, ""⟩], ∅⟩ : Listing)) ∧
      (∃ text, descriptions.get? unruly = some text ∧ Json.parse? text = some (wire unrulyDeclaration)) := by
  obtain ⟨names, listing, descriptions, hnames, hentries, hlisting, -, -, hdescriptions⟩ :=
    renderModule_decodes ⟨unruly, swaggerVersion, "", [⟨unruly, ""⟩], ∅⟩
      (.ofList [(unruly, unrulyDeclaration), ("", unrulyDeclaration)]) (by decide)
  exact ⟨names, listing, descriptions, hnames, hentries, hlisting,
    hdescriptions unruly unrulyDeclaration (by decide)⟩

end RouteDocs
