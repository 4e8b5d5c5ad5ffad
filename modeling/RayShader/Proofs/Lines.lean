import RayShader.Program.Basic
import RayShader.Proofs.Words

/-!
# Lines of programs

A program is read line by line. The lines of its function begin with the indentation of
a body, unless they are empty; one with `let` right behind the indentation binds the word
that follows. `Lets` says both of a list of lines, with the names in order, so what a
body binds is put together from what its parts bind.

A text without a break is one line (`Text.IsLine`), and where a break stands, the lines
of a text are those before it and those behind it. With these two the lines of a program
are those of its preamble, of the fragments of its body and of its last call
(`Program.lines_text`).
-/

namespace RayShader

/-! ### Lines -/

namespace Text

/-- The lines of a text; there is always at least one. -/
def lines (s : String) : List String := (s.toList.splitOn '\n').map String.ofList

/-- The text has no break. -/
def IsLine (s : String) : Prop := '\n' ∉ s.toList

/-- The text goes on in a word. -/
def isWord (s : String) : Bool := s.toList.all isWordChar

instance (s : String) : Decidable (IsLine s) := inferInstanceAs (Decidable ('\n' ∉ s.toList))

variable {s t : String}

theorem isLine_append : IsLine (s ++ t) ↔ IsLine s ∧ IsLine t := by
  rw [IsLine, String.toList_append, List.mem_append, not_or]
  rfl

theorem IsLine.append (hs : IsLine s) (ht : IsLine t) : IsLine (s ++ t) := isLine_append.mpr ⟨hs, ht⟩

/-- A literal without a break is a line. -/
theorem IsLine.literal {cs : List Char} (h : cs.all (· != '\n') = true) : IsLine (.ofList cs) := by
  intro mem
  rw [String.toList_ofList] at mem
  simpa using List.all_eq_true.mp h _ mem

theorem lines_of_isLine (h : IsLine s) : lines s = [s] := by
  rw [lines, List.splitOn_eq_singleton h, List.map_singleton, String.ofList_toList]

/-- A break ends a line. -/
theorem lines_break (s t : String) : lines (s ++ ("\n" ++ t)) = lines s ++ lines t := by
  have chars : (s ++ ("\n" ++ t)).toList = s.toList ++ '\n' :: t.toList := by
    rw [String.toList_append, String.toList_append]
    rfl
  rw [lines, chars, List.splitOn_eq_splitOnP, List.splitOnP_append_cons _ _ (by simp),
    List.map_append, ← List.splitOn_eq_splitOnP, ← List.splitOn_eq_splitOnP]
  rfl

theorem lines_isLine_break (h : IsLine s) (t : String) : lines (s ++ ("\n" ++ t)) = s :: lines t := by
  rw [lines_break, lines_of_isLine h, List.singleton_append]

/-- A line in front of a text goes on in the first line of that text. -/
theorem lines_append (h : IsLine s) (t : String) :
    ∃ first rest, lines t = first :: rest ∧ lines (s ++ t) = (s ++ first) :: rest := by
  have chars (cs : List Char) (free : '\n' ∉ cs) :
      (cs ++ t.toList).splitOn '\n' = (t.toList.splitOn '\n').modifyHead (cs ++ ·) := by
    induction cs with
    | nil =>
      rw [List.nil_append]
      cases t.toList.splitOn '\n' <;> rfl
    | cons c cs ih =>
      obtain ⟨ne, free⟩ := not_or.mp (List.mem_cons.not.mp free)
      rw [List.cons_append, List.splitOn_eq_splitOnP, List.splitOnP_cons_eq_if_modifyHead,
        ← List.splitOn_eq_splitOnP, ih free, if_neg (by simpa using Ne.symm ne),
        List.modifyHead_modifyHead]
      rfl
  obtain ⟨first, rest, parts⟩ := List.exists_cons_of_ne_nil (List.splitOn_ne_nil '\n' t.toList)
  refine ⟨.ofList first, rest.map .ofList, by rw [lines, parts, List.map_cons], ?_⟩
  rw [lines, String.toList_append, chars _ h, parts, List.modifyHead_cons, List.map_cons,
    String.ofList_append, String.ofList_toList]

/-- Each text with a break behind it is a line. -/
theorem lines_join {α : Type} {as : List α} {text : α → String} {line : α → String}
    (h : ∀ a ∈ as, text a = line a ++ "\n" ∧ IsLine (line a)) (t : String) :
    lines (.join (as.map text) ++ t) = as.map line ++ lines t := by
  induction as with
  | nil => simp
  | cons a as ih =>
    obtain ⟨⟨ends, one⟩, others⟩ := List.forall_mem_cons.mp h
    rw [List.map_cons, String.join_cons, ends, String.append_assoc, String.append_assoc,
      lines_isLine_break one, ih others, List.map_cons, List.cons_append]

/-- One of the lines is the first text, and a later one begins with the second. -/
def Precedes (line code : String) (ls : List String) : Prop :=
  ∃ front between rest behind, ls = front ++ line :: (between ++ (code ++ rest) :: behind)

namespace Precedes

variable {line code : String} {ls ls' : List String}

theorem of_mem {rest : String} (first : line ∈ ls) (later : code ++ rest ∈ ls') :
    Precedes line code (ls ++ ls') := by
  obtain ⟨front, between, rfl⟩ := List.append_of_mem first
  obtain ⟨between', behind, rfl⟩ := List.append_of_mem later
  exact ⟨front, between ++ between', rest, behind, by simp⟩

theorem append_left (h : Precedes line code ls) (more : List String) :
    Precedes line code (more ++ ls) := by
  obtain ⟨front, between, rest, behind, rfl⟩ := h
  exact ⟨more ++ front, between, rest, behind, by simp⟩

theorem append_right (h : Precedes line code ls) (more : List String) :
    Precedes line code (ls ++ more) := by
  obtain ⟨front, between, rest, behind, rfl⟩ := h
  exact ⟨front, between, rest, behind ++ more, by simp⟩

end Precedes

/-! Words, numbers and literals are lines. -/

theorem isLine_of_isWord (h : isWord s = true) : IsLine s :=
  fun mem => absurd (List.all_eq_true.mp h '\n' mem) (by decide)

theorem isLine_nat (n : Nat) : IsLine (toString n) := not_mem_toString_nat (by decide) n

theorem isLine_int (n : Int) : IsLine (toString n) := not_mem_toString_int (by decide) (by decide) n

theorem isLine_floatLiteral (x : Single) : IsLine (Program.floatLiteral x) :=
  Program.not_mem_floatLiteral (by decide) x

theorem isLine_vec3Literal (v : Vec3) : IsLine (Program.vec3Literal v) :=
  Program.not_mem_vec3Literal (by decide) (by decide) v

theorem isLine_colorLiteral (v : Vec3) : IsLine (Program.colorLiteral v) :=
  Program.not_mem_colorLiteral (by decide) (by decide) v

end Text

/-! ### Names that lines bind -/

namespace Program

open Text (lines IsLine isWord isWordChar)

/-- The name that a line of a body binds: the word behind `let`, which stands at the
indentation. -/
def boundName? (line : String) : Option String :=
  ("  let ".toList.isPrefixOf? line.toList).map fun rest => .ofList (rest.takeWhile isWordChar)

/-- The names that the lines of a text bind, in order. -/
def boundNames (s : String) : List String := (lines s).filterMap boundName?

variable {name rest front line : String} {ls ls' names names' : List String}

theorem boundName?_let (word : isWord name = true) (rest : String) :
    boundName? ("  let " ++ (name ++ (" = " ++ rest))) = some name := by
  have chars : ("  let " ++ (name ++ (" = " ++ rest))).toList
      = "  let ".toList ++ (name.toList ++ (' ' :: ("= ".toList ++ rest.toList))) := by
    simp only [String.toList_append]
    rfl
  rw [boundName?, chars, List.isPrefixOf?_eq_some_iff_append_eq.mpr rfl, Option.map_some,
    List.takeWhile_append_of_pos (List.all_eq_true.mp word), List.takeWhile_cons_of_neg (by decide),
    List.append_nil, String.ofList_toList]

/-- A line that begins otherwise binds nothing. -/
theorem boundName?_of_ne (long : front.toList.length = 6) (other : front.toList ≠ "  let ".toList)
    (rest : String) : boundName? (front ++ rest) = none := by
  rw [boundName?, Option.map_eq_none_iff]
  cases found : "  let ".toList.isPrefixOf? (front ++ rest).toList with
  | none => rfl
  | some behind =>
    rw [List.isPrefixOf?_eq_some_iff_append_eq, String.toList_append] at found
    exact absurd (List.append_inj_left found (by rw [long]; rfl)).symm other

/-- The lines are those of a body, and they bind the names in order. -/
structure Lets (ls : List String) (names : List String) : Prop where
  /-- The lines are empty or indented. -/
  indented : ∀ line ∈ ls, line = "" ∨ ∃ rest, line = indent ++ rest
  /-- The names. -/
  names_eq : ls.filterMap boundName? = names

namespace Lets

theorem nil : Lets [] [] := ⟨by simp, rfl⟩

theorem append (h : Lets ls names) (h' : Lets ls' names') : Lets (ls ++ ls') (names ++ names') := by
  refine ⟨fun line mem => ?_, ?_⟩
  · rcases List.mem_append.mp mem with mem | mem
    · exact h.indented line mem
    · exact h'.indented line mem
  · rw [List.filterMap_append, h.names_eq, h'.names_eq]

/-- A line that binds a name. -/
theorem binding (word : isWord name = true) (rest : String) :
    Lets ["  let " ++ (name ++ (" = " ++ rest))] [name] := by
  refine ⟨fun line mem => .inr ⟨"let " ++ (name ++ (" = " ++ rest)), ?_⟩, ?_⟩
  · have stem : "  let " = indent ++ "let " := by decide
    rw [List.mem_singleton.mp mem, stem, String.append_assoc]
  · rw [List.filterMap_cons, boundName?_let word rest]
    rfl

theorem binding_of_eq (rest : String) (eq : line = "  let " ++ (name ++ (" = " ++ rest)))
    (word : isWord name = true) : Lets [line] [name] := eq ▸ binding word rest

/-- A line that binds nothing. -/
theorem other (indented : line = "" ∨ ∃ rest, line = indent ++ rest)
    (none : boundName? line = none) : Lets [line] [] := by
  refine ⟨by simpa using indented, ?_⟩
  rw [List.filterMap_cons, none]
  rfl

theorem blank : Lets [""] [] := other (.inl rfl) rfl

/-- A line further in binds nothing. -/
theorem deeper (rest : String) : Lets ["      " ++ rest] [] := by
  have stem : "      " = indent ++ "    " := by decide
  refine other (.inr ⟨"    " ++ rest, ?_⟩) (boundName?_of_ne (by decide) (by decide) rest)
  rw [stem, String.append_assoc]

theorem binding_cons (word : isWord name = true) (rest : String)
    (h : Lets ls names) : Lets (("  let " ++ (name ++ (" = " ++ rest))) :: ls) (name :: names) :=
  (binding word rest).append h

theorem mem_of_boundName? (h : Lets ls names) (mem : line ∈ ls) (binds : boundName? line = some name) :
    name ∈ names := by
  rw [← h.names_eq]
  exact List.mem_filterMap.mpr ⟨line, mem, binds⟩

/-- A line for each of a list. -/
theorem flatMap {α : Type} {as : List α} {line : α → String} {names : α → List String}
    (h : ∀ a ∈ as, Lets [line a] (names a)) : Lets (as.map line) (as.flatMap names) := by
  induction as with
  | nil => exact nil
  | cons a as ih =>
    obtain ⟨first, others⟩ := List.forall_mem_cons.mp h
    rw [List.flatMap_cons]
    exact first.append (ih others)

/-- Lines that bind a name for each of a list. -/
theorem map {α : Type} {as : List α} {line name : α → String}
    (h : ∀ a ∈ as, Lets [line a] [name a]) : Lets (as.map line) (as.map name) := by
  rw [List.map_eq_flatMap (f := name)]
  exact flatMap h

/-- Lines for each of a list that bind nothing. -/
theorem map_other {α : Type} {as : List α} {line : α → String}
    (h : ∀ a ∈ as, Lets [line a] []) : Lets (as.map line) [] := by
  have none : as.flatMap (fun _ => []) = ([] : List String) :=
    List.flatMap_eq_nil_iff.mpr fun _ _ => rfl
  exact none ▸ flatMap h

end Lets

/-! ### Fragments and programs -/

namespace Fragment

/-- The text of a fragment, without the end of its last line. -/
def content : Fragment → String
  | source text => text
  | inline text => indent ++ text
  | statement call => indent ++ call.text ++ ";"
  | binding name value type =>
    indent ++ "let " ++ name ++ " = " ++ value.text ++ type.elim "" (" : " ++ ·) ++ ";"
  | blank => ""

theorem text_eq (f : Fragment) : f.text = f.content ++ "\n" := by
  cases f with
  | binding name value type => cases type <;> simp [text, content, String.append_assoc]
  | _ => simp [text, content, String.append_assoc]

/-- The lines of a fragment. -/
def lines (f : Fragment) : List String := Text.lines f.content

end Fragment

/-- The line of a binding. -/
theorem Fragment.lines_binding {value : Expr} {type : Option String} (word : isWord name = true)
    (hv : IsLine value.text) (ht : ∀ t ∈ type, IsLine t) :
    (Fragment.binding name value type).lines = ["  let " ++ (name ++ (" = "
      ++ (value.text ++ (type.elim "" (" : " ++ ·) ++ ";"))))] := by
  have stem : indent ++ "let " = "  let " := rfl
  have typed : IsLine (type.elim "" (" : " ++ ·)) := by
    cases type with
    | none => exact .literal rfl
    | some t => exact .append (.literal rfl) (ht t rfl)
  have line : IsLine ("  let " ++ (name ++ (" = " ++ (value.text
      ++ (type.elim "" (" : " ++ ·) ++ ";"))))) :=
    .append (.literal rfl) (.append (Text.isLine_of_isWord word) (.append (.literal rfl)
      (hv.append (typed.append (.literal rfl)))))
  have content : (Fragment.binding name value type).content = "  let " ++ (name ++ (" = "
      ++ (value.text ++ (type.elim "" (" : " ++ ·) ++ ";")))) := by
    rw [Fragment.content, stem]
    simp only [String.append_assoc]
  rw [Fragment.lines, content, Text.lines_of_isLine line]

theorem Lets.fragment {value : Expr} {type : Option String} (word : isWord name = true)
    (hv : IsLine value.text) (ht : ∀ t ∈ type, IsLine t) :
    Lets (Fragment.binding name value type).lines [name] := by
  rw [Fragment.lines_binding word hv ht]
  exact .binding word _

theorem lines_body (fs : List Fragment) (t : String) :
    Text.lines (.join (fs.map Fragment.text) ++ t) = fs.flatMap Fragment.lines ++ Text.lines t := by
  induction fs with
  | nil => simp
  | cons f fs ih =>
    rw [List.map_cons, String.join_cons, Fragment.text_eq, String.append_assoc, String.append_assoc,
      Text.lines_break, ih, List.flatMap_cons, List.append_assoc, Fragment.lines]

/-- The characters of a signature, word by word. -/
theorem EntryPoint.toList_text (e : EntryPoint) : e.text.toList
    = "#[export] fn ".toList ++ (e.name.toList ++ ("(".toList ++ (", ".toList.intercalate
      (e.params.map fun p => p.1.toList ++ (": ".toList ++ p.2.toList))
        ++ (") -> ".toList ++ (e.returns.toList ++ " \x7b".toList))))) := by
  have params : (e.params.map fun p => p.1 ++ ": " ++ p.2).map String.toList
      = e.params.map fun p => p.1.toList ++ (": ".toList ++ p.2.toList) := by
    rw [List.map_map]
    refine List.map_congr_left fun p _ => ?_
    rw [Function.comp, String.toList_append, String.toList_append, List.append_assoc]
  rw [← params, ← String.toList_intercalate]
  simp only [← String.toList_append, ← String.append_assoc]
  rfl

/-- The characters of a call with names for arguments, word by word. -/
theorem Call.toList_text_forward (receiver function : String) (names : List String) :
    (Call.forward receiver function names).text.toList = receiver.toList ++ (".".toList
      ++ (function.toList ++ ("(".toList ++ (", ".toList.intercalate (names.map String.toList)
        ++ ")".toList)))) := by
  have more (names : List String) (name : String) :
      name.toList ++ (Expr.moreText (names.map .ident)).toList
        = ", ".toList.intercalate ((name :: names).map String.toList) ++ ")".toList := by
    induction names generalizing name with
    | nil => simp [Expr.moreText]
    | cons next names ih =>
      have rest := ih next
      rw [List.map_cons] at rest
      rw [List.map_cons, List.map_cons, List.map_cons, List.intercalate_cons_cons, List.append_assoc,
        List.append_assoc, ← rest, Expr.moreText, Expr.text, String.toList_append, String.toList_append,
        List.append_assoc]
  cases names with
  | nil => simp [text, forward, method, toExpr, Expr.text, calleeText]
  | cons name names =>
    rw [← more]
    simp [text, forward, method, toExpr, Expr.text, calleeText]

end Program

/-- The lines of a program are those of its parts. -/
theorem Program.lines_text (p : Program) :
    Text.lines p.text = Text.lines p.preamble ++ (Text.lines p.entry.text
      ++ (p.body.flatMap Fragment.lines ++ (Text.lines (indent ++ p.result.text) ++ ["\x7d", ""]))) := by
  have closing : "\n\x7d\n" = "\n" ++ "\x7d\n" ∧ Text.lines "\x7d\n" = ["\x7d", ""] := by decide
  have call : indent ++ (p.result.text ++ "\n\x7d\n")
      = (indent ++ p.result.text) ++ ("\n" ++ "\x7d\n") := by
    rw [closing.1, String.append_assoc]
  rw [Program.text]
  simp only [String.append_assoc, Text.lines_break]
  rw [Program.lines_body, call, Text.lines_break, closing.2]

/-- What precedes something in the body of a program precedes it in the program. -/
theorem Program.precedes_text {p : Program} {line code : String}
    (h : Text.Precedes line code (p.body.flatMap Fragment.lines)) :
    Text.Precedes line code (Text.lines p.text) := by
  rw [Program.lines_text]
  exact ((h.append_right _).append_left _).append_left _

end RayShader
