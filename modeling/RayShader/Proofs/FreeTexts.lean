import RayShader.Proofs.TableLines
import RayShader.Proofs.TechniqueTexts

/-!
# Texts that do not name the shading context

Programs name the shading context `ctx`. A text that does not begin with the letter `x` and
has none behind a `t` has no such name in any of its lines (`Text.IsFree.not_mentions_code`), and
texts that are made of such texts are of that form as well: no name arises where two of them
meet. Literals are free in this sense, and so is what a template makes of free values if its
own texts are (`Template.renderAll_isFree`). This covers what the stock emitters contribute,
but for lights and materials.
-/

namespace RayShader

open Text (lines IsLine code codeChars Mentions)

/-! ### Free texts -/

namespace Text

/-- No `x` stands behind a `t` in the characters, which stand behind the first one. -/
def noTx : Char → List Char → Bool
  | _, [] => true
  | before, c :: rest => !(before == 't' && c == 'x') && noTx c rest

/-- The text does not begin with `x` and has none behind a `t`. -/
def IsFree (s : String) : Prop := noTx 't' s.toList = true

instance (s : String) : Decidable (IsFree s) := inferInstanceAs (Decidable (noTx 't' s.toList = true))

variable {s t line : String} {cs ds : List Char}

theorem noTx_of_t {before : Char} (h : noTx 't' cs = true) : noTx before cs = true := by
  cases cs with
  | nil => rfl
  | cons c rest =>
    simp only [noTx, Bool.and_eq_true, Bool.not_eq_true', Bool.and_eq_false_iff] at h ⊢
    exact ⟨.inr (h.1.resolve_left (by decide)), h.2⟩

theorem noTx_append {before : Char} (hc : noTx before cs = true) (hd : noTx 't' ds = true) :
    noTx before (cs ++ ds) = true := by
  induction cs generalizing before with
  | nil => exact noTx_of_t hd
  | cons c rest ih =>
    rw [noTx, Bool.and_eq_true] at hc
    rw [List.cons_append, noTx, Bool.and_eq_true]
    exact ⟨hc.1, ih hc.2⟩

theorem noTx_of_prefix {before : Char} (h : noTx before ds = true) (front : cs <+: ds) :
    noTx before cs = true := by
  induction cs generalizing before ds with
  | nil => rfl
  | cons c rest ih =>
    obtain ⟨more, rfl⟩ := front
    rw [List.cons_append, noTx, Bool.and_eq_true] at h
    rw [noTx, Bool.and_eq_true]
    exact ⟨h.1, ih h.2 (List.prefix_append _ _)⟩

theorem noTx_of_not_mem {before : Char} (h : 'x' ∉ cs) : noTx before cs = true := by
  induction cs generalizing before with
  | nil => rfl
  | cons c rest ih =>
    rw [List.mem_cons, not_or] at h
    have other : (c == 'x') = false := beq_eq_false_iff_ne.mpr (Ne.symm h.1)
    rw [noTx, other, Bool.and_false, ih h.2]
    rfl

theorem not_infix_of_noTx {before : Char} (h : noTx before cs = true) : ¬ ['t', 'x'] <:+: cs := by
  rintro ⟨front, behind, rfl⟩
  rw [List.append_assoc] at h
  induction front generalizing before with
  | nil => simp [noTx] at h
  | cons c rest ih =>
    rw [List.cons_append, noTx, Bool.and_eq_true] at h
    exact ih h.2

theorem IsFree.literal (h : noTx 't' cs = true) : IsFree (.ofList cs) := by
  rwa [IsFree, String.toList_ofList]

theorem IsFree.append (hs : IsFree s) (ht : IsFree t) : IsFree (s ++ t) := by
  rw [IsFree, String.toList_append]
  exact noTx_append hs ht

theorem isFree_join {parts : List String} (h : ∀ part ∈ parts, IsFree part) : IsFree (.join parts) := by
  induction parts with
  | nil => decide
  | cons part parts ih =>
    obtain ⟨first, others⟩ := List.forall_mem_cons.mp h
    rw [String.join_cons]
    exact first.append (ih others)

/-- A text is free if it is so in small letters. -/
theorem noTx_of_map_toLower {before : Char}
    (h : noTx before.toLower (cs.map Char.toLower) = true) : noTx before cs = true := by
  induction cs generalizing before with
  | nil => rfl
  | cons c rest ih =>
    rw [List.map_cons, noTx, Bool.and_eq_true] at h
    rw [noTx, Bool.and_eq_true]
    refine ⟨?_, ih h.2⟩
    by_contra pair
    simp only [Bool.not_eq_true', Bool.and_eq_true, beq_iff_eq, Bool.not_eq_false] at pair
    obtain ⟨rfl, rfl⟩ := pair
    exact absurd h.1 (by decide)

theorem isFree_of_not_mem (h : 'x' ∉ s.toList) : IsFree s := noTx_of_not_mem h

theorem isFree_nat (n : Nat) : IsFree (toString n) :=
  isFree_of_not_mem (not_mem_toString_nat (by decide) n)

theorem isFree_int (n : Int) : IsFree (toString n) :=
  isFree_of_not_mem (not_mem_toString_int (by decide) (by decide) n)

theorem isFree_floatLiteral (x : Single) : IsFree (Program.floatLiteral x) :=
  isFree_of_not_mem (Program.not_mem_floatLiteral (by decide) x)

theorem isFree_vec3Literal (v : Vec3) : IsFree (Program.vec3Literal v) :=
  isFree_of_not_mem (Program.not_mem_vec3Literal (by decide) (by decide) v)

theorem isFree_colorLiteral (v : Vec3) : IsFree (Program.colorLiteral v) :=
  isFree_of_not_mem (Program.not_mem_colorLiteral (by decide) (by decide) v)

theorem isFree_callText {head : String} {args : List String} (hh : IsFree head)
    (ha : ∀ arg ∈ args, IsFree arg) : IsFree (Program.callText head args) :=
  Program.callText_of (fun _ _ => .append) (.literal rfl) (.literal rfl) hh ha

theorem isFree_trimEnd (h : IsFree s) : IsFree (trimEnd s) := by
  have front : dropBlankEnd s.toList <+: s.toList := by
    have kept := List.reverse_prefix.mpr (List.dropWhile_suffix (l := s.toList.reverse) isBlank)
    rwa [List.reverse_reverse] at kept
  rw [IsFree, trimEnd, String.toList_ofList]
  exact noTx_of_prefix h front

/-! ### Lines and their code -/

/-- The parts of a text between breaks stand in it. -/
theorem infix_of_mem_splitOnP {p : Char → Bool} {w : List Char} (h : w ∈ cs.splitOnP p) :
    w <:+: cs := by
  -- the first part stands at the beginning, and so the character in front of it belongs to it
  have parts : ∃ first more, cs.splitOnP p = first :: more ∧ first <+: cs ∧ ∀ w ∈ more, w <:+: cs := by
    clear h
    induction cs with
    | nil => exact ⟨[], [], rfl, List.nil_prefix, by simp⟩
    | cons d cs ih =>
      obtain ⟨first, more, split, front, others⟩ := ih
      rw [List.splitOnP_cons_eq_if_modifyHead, split]
      have behind := List.suffix_cons d cs
      split
      · refine ⟨[], first :: more, rfl, List.nil_prefix, ?_⟩
        exact List.forall_mem_cons.mpr ⟨front.isInfix.trans behind.isInfix,
          fun w mem => (others w mem).trans behind.isInfix⟩
      · exact ⟨d :: first, more, rfl, List.cons_prefix_cons.mpr ⟨rfl, front⟩,
          fun w mem => (others w mem).trans behind.isInfix⟩
  obtain ⟨first, more, split, front, others⟩ := parts
  rw [split] at h
  rcases List.mem_cons.mp h with rfl | h
  · exact front.isInfix
  · exact others w h

theorem prefix_codeChars (cs : List Char) : codeChars cs <+: cs := by
  induction cs with
  | nil => exact List.nil_prefix
  | cons c rest ih =>
    rw [codeChars]
    split
    · exact List.nil_prefix
    · exact List.cons_prefix_cons.mpr ⟨rfl, ih⟩

/-- Nothing that stands in a free text names the shading context. -/
theorem IsFree.not_mentions_of_infix (h : IsFree s) (within : t.toList <:+: s.toList) :
    ¬ Mentions t "ctx" := by
  intro mentioned
  have word : "ctx".toList <:+: t.toList := infix_of_mem_splitOnP (List.mem_of_mem_filter mentioned)
  have pair : ['t', 'x'] <:+: "ctx".toList := by decide
  exact not_infix_of_noTx h (pair.trans (word.trans within))

theorem IsFree.not_mentions (h : IsFree s) : ¬ Mentions s "ctx" :=
  h.not_mentions_of_infix (List.infix_refl _)

/-- The code of a line stands in the text of the line. -/
theorem infix_of_mem_lines (mem : line ∈ lines s) : (code line).toList <:+: s.toList := by
  obtain ⟨chars, part, rfl⟩ := List.mem_map.mp mem
  simp only [code, String.toList_ofList]
  exact (prefix_codeChars chars).isInfix.trans (infix_of_mem_splitOnP part)

/-- No line of a free text names the shading context. -/
theorem IsFree.not_mentions_code (h : IsFree s) (mem : line ∈ lines s) : ¬ Mentions (code line) "ctx" :=
  h.not_mentions_of_infix (infix_of_mem_lines mem)

end Text

/-! ### Templates -/

namespace Template

variable {scope : Scope} {s : String}

/-- The text of the value is free. -/
def Value.IsFree (v : Value) : Prop := ∀ s, v.text = .ok s → Text.IsFree s

theorem Value.isFree_string (h : Text.IsFree s) : (string s).IsFree := by
  intro t shown
  rwa [← Except.ok.inj shown]

theorem Value.isFree_int (n : Int) : (int n).IsFree := by
  intro t shown
  obtain rfl : toString n = t := Except.ok.inj shown
  exact Text.isFree_int n

theorem Value.isFree_nat (n : Nat) : (nat n).IsFree := isFree_int n

theorem Value.isFree_bool (b : Bool) : (bool b).IsFree := by
  intro t shown
  obtain rfl : (if b then "True" else "False") = t := Except.ok.inj shown
  cases b <;> decide

/-- The texts of the values are free. -/
def Scope.AreFree (scope : Scope) : Prop := ∀ p ∈ scope, p.2.IsFree

mutual

/-- The texts of the node are free, its values have names, and it iterates over none. -/
def Node.textsFree : Node → Bool
  | .text s => decide (Text.IsFree s)
  | .value (.name _) => true
  | .value _ | .each .. => false
  | .cond _ yes no => Node.allTextsFree yes && Node.allTextsFree no

/-- All nodes have free texts. -/
def Node.allTextsFree : List Node → Bool
  | [] => true
  | n :: rest => n.textsFree && Node.allTextsFree rest

end

theorem Scope.AreFree.render {name : String} (h : scope.AreFree)
    (shown : (hole name).render scope = .ok s) : Text.IsFree s := by
  have value : ((scope.lookup name).getD .undefined).text = .ok s := shown
  cases found : scope.lookup name with
  | none =>
    rw [found] at value
    cases value
  | some v =>
    rw [found] at value
    obtain ⟨l, r, rfl, -⟩ := List.lookup_eq_some_iff.mp found
    exact h (name, v) (by simp) s value

mutual

theorem Node.render_isFree (hs : scope.AreFree) :
    ∀ n : Node, n.textsFree = true → ∀ s, n.render scope = .ok s → Text.IsFree s
  | .text t, h, s, shown => by
    obtain rfl := Except.ok.inj shown
    exact of_decide_eq_true h
  | .value (.name n), _, s, shown => hs.render shown
  | .cond test yes no, h, s, shown => by
    simp only [Node.textsFree, Bool.and_eq_true] at h
    obtain ⟨b, -, shown⟩ := except_bind_eq_ok.mp shown
    cases b with
    | true => exact Node.renderAll_isFree hs yes h.1 s shown
    | false => exact Node.renderAll_isFree hs no h.2 s shown

/-- Nodes with free texts make free texts of free values. -/
theorem Node.renderAll_isFree (hs : scope.AreFree) :
    ∀ ns : List Node, Node.allTextsFree ns = true →
      ∀ s, Node.renderAll ns scope = .ok s → Text.IsFree s
  | [], _, s, shown => by
    obtain rfl := Except.ok.inj shown
    decide
  | n :: rest, h, s, shown => by
    simp only [Node.allTextsFree, Bool.and_eq_true] at h
    obtain ⟨x, y, first, others, rfl⟩ := Node.renderAll_cons shown
    exact (Node.render_isFree hs n h.1 x first).append (Node.renderAll_isFree hs rest h.2 y others)

end

theorem fill_isFree {nodes : List Node} (hn : Node.allTextsFree nodes = true) (hs : scope.AreFree)
    (filled : Stock.fill nodes scope = .ok s) : Text.IsFree s := by
  rw [Stock.fill, Template.fill] at filled
  cases shown : Node.renderAll nodes scope with
  | error e =>
    rw [shown] at filled
    cases filled
  | ok text =>
    rw [shown] at filled
    obtain rfl : Text.trimEnd text = s := Except.ok.inj filled
    exact Text.isFree_trimEnd (Node.renderAll_isFree hs nodes hn text shown)

end Template

/-! ### Contributions -/

namespace Stock

open Template

variable {c : Context} {o : Object} {s : String}

/-- A mode that is read is free if those that are known are. -/
theorem isFree_of_readMode {modes : List String} {default category name mode : String} {i : Nat}
    (free : ∀ m ∈ modes, Text.noTx 't' (m.toList.map Char.toLower) = true)
    (h : (do
      let mode := (← o.string? "mode").getD default
      match modeIndex? modes mode with
      | some index => pure (mode, index)
      | none => .error (.unsupportedKind category mode name)) = Except.ok (mode, i)) :
    Text.IsFree mode := by
  obtain ⟨m, known, lower⟩ := known_of_readMode h
  refine Text.noTx_of_map_toLower ?_
  rw [← lower]
  exact free m known

namespace Technique

/-- The parameters of a technique that are texts are free. -/
theorem isFree_parameters {t : Technique} {p : Parameters} (h : t.parameters o = .ok p) :
    Text.IsFree p.clamp ∧ Text.IsFree p.mode ∧ Text.IsFree p.radius := by
  have empty : Text.IsFree "" := by decide
  cases t with
  | path =>
    obtain ⟨depth, -, h⟩ := except_bind_eq_ok.mp h
    obtain ⟨clamp, -, h⟩ := except_bind_eq_ok.mp h
    obtain ⟨normals, -, h⟩ := except_bind_eq_ok.mp h
    obtain rfl := Except.ok.inj h
    exact ⟨Text.isFree_floatLiteral clamp, empty, empty⟩
  | ambientOcclusion =>
    obtain rfl := Except.ok.inj h
    exact ⟨empty, empty, empty⟩
  | debug =>
    obtain ⟨⟨mode, index⟩, known, h⟩ := except_bind_eq_ok.mp h
    obtain rfl := Except.ok.inj h
    exact ⟨empty, isFree_of_readMode (by decide) known, empty⟩
  | lightVisibility =>
    obtain ⟨depth, -, h⟩ := except_bind_eq_ok.mp h
    obtain rfl := Except.ok.inj h
    exact ⟨empty, empty, empty⟩
  | photons =>
    obtain ⟨depth, -, h⟩ := except_bind_eq_ok.mp h
    obtain ⟨radius, -, h⟩ := except_bind_eq_ok.mp h
    obtain ⟨photons, -, h⟩ := except_bind_eq_ok.mp h
    obtain rfl := Except.ok.inj h
    exact ⟨empty, empty, Text.isFree_floatLiteral radius⟩

theorem scope_areFree {t : Technique} {p : Parameters} (h : ofContext c = .ok (t, p))
    (isBefore : Bool) : (scope c isBefore p).AreFree := by
  obtain ⟨-, read⟩ := ofContext_eq_ok.mp h
  obtain ⟨clamp, mode, radius⟩ := isFree_parameters read
  simp only [Scope.AreFree, scope, Parameters.scope, List.forall_mem_cons]
  exact ⟨Value.isFree_nat _, Value.isFree_bool _, Value.isFree_int _, Value.isFree_string clamp,
    Value.isFree_bool _, Value.isFree_string mode, Value.isFree_nat _, Value.isFree_string radius,
    Value.isFree_int _, by simp⟩

end Technique

theorem technique_isFree (h : technique c = .ok s) : Text.IsFree s := by
  obtain ⟨⟨t, p⟩, chosen, filled⟩ := except_bind_eq_ok.mp h
  exact fill_isFree (by cases t <;> decide +kernel) (Technique.scope_areFree chosen false) filled

theorem callback_isFree {m : RayShader.Technique.Moment} (h : callback c m = .ok s) :
    Text.IsFree s := by
  unfold callback at h
  split at h
  · cases h
  · obtain ⟨⟨t, p⟩, chosen, filled⟩ := except_bind_eq_ok.mp h
    exact fill_isFree (by decide +kernel) (Technique.scope_areFree chosen _) filled

theorem header_isFree {v : RayShader.Technique.VariantInfo} (hv : c.variant = .ok v)
    (technique : Text.IsFree c.techniqueKind)
    (initializer : Text.IsFree (v.payloadInitializer.getD Technique.emptyPayload))
    {rayGeneration : Bool} (h : header c rayGeneration = .ok s) : Text.IsFree s := by
  rw [header, hv] at h
  refine fill_isFree (by decide +kernel) ?_ (ok_of_orFault h)
  simp only [Scope.AreFree, List.forall_mem_cons]
  exact ⟨Value.isFree_string technique, Value.isFree_nat _, Value.isFree_nat _, Value.isFree_nat _,
    Value.isFree_string initializer, Value.isFree_bool _, by simp⟩

theorem camera_isFree (h : camera c = .ok s) : Text.IsFree s := by
  have number (x : Single) : (Value.string (Program.floatLiteral x)).IsFree :=
    Value.isFree_string (Text.isFree_floatLiteral x)
  have vector (v : Vec3) : (Value.string (Program.vec3Literal v)).IsFree :=
    Value.isFree_string (Text.isFree_vec3Literal v)
  obtain ⟨base, made, h⟩ := except_bind_eq_ok.mp h
  have hb : Scope.AreFree base := by
    obtain ⟨origin, -, made⟩ := except_bind_eq_ok.mp made
    obtain ⟨direction, -, made⟩ := except_bind_eq_ok.mp made
    obtain ⟨up, -, made⟩ := except_bind_eq_ok.mp made
    obtain ⟨near, -, made⟩ := except_bind_eq_ok.mp made
    obtain ⟨far, -, made⟩ := except_bind_eq_ok.mp made
    obtain rfl := Except.ok.inj made
    simp only [Scope.AreFree, List.forall_mem_cons]
    exact ⟨vector _, vector _, vector _, number _, number _, number _, by simp⟩
  split at h
  · rename_i kind _
    cases kind with
    | perspective =>
      obtain ⟨fov, -, filled⟩ := except_bind_eq_ok.mp h
      exact fill_isFree (by decide +kernel) (List.forall_mem_cons.mpr ⟨number _, hb⟩) filled
    | orthogonal =>
      obtain ⟨scale, -, filled⟩ := except_bind_eq_ok.mp h
      exact fill_isFree (by decide +kernel) (List.forall_mem_cons.mpr ⟨number _, hb⟩) filled
    | fishlens =>
      obtain ⟨⟨mode, index⟩, known, filled⟩ := except_bind_eq_ok.mp h
      refine fill_isFree (by decide +kernel) ?_ filled
      simp only [Scope.AreFree, List.forall_mem_cons]
      exact ⟨Value.isFree_string (isFree_of_readMode (by decide) known), Value.isFree_nat _,
        number _, number _, hb⟩
  · cases h

theorem device_isFree (t : Target) : Text.IsFree (device t) := by
  have numbered {front : String} (hf : Text.IsFree front) (n : Nat) {behind : String}
      (hb : Text.IsFree behind) : Text.IsFree (front ++ toString n ++ behind) :=
    (hf.append (Text.isFree_nat n)).append hb
  have call : Text.IsFree (deviceCall t) := by
    unfold deviceCall
    split
    · exact .literal rfl
    all_goals exact numbered (.literal rfl) _ (.literal rfl)
  exact .append (.append (.literal rfl) call) (.literal rfl)

theorem database_isFree : Text.IsFree database := .literal rfl

theorem declaration_isFree (b : Nat) : Text.IsFree (declarationContent b) :=
  .append (.literal rfl) (.append (.append (.literal rfl) (Text.isFree_nat b)) (.append (.literal rfl)
    (.append (.literal rfl) (.append (.literal rfl) (.append (Text.isFree_nat b) (.literal rfl))))))

theorem tableRest_isFree (count : Nat) : Text.IsFree (tableRest count) := by
  have arm (i : Nat) : Text.IsFree (lightArm (("", ""), i)) := by
    refine Text.isFree_join ?_
    simp only [List.forall_mem_cons]
    exact ⟨.literal rfl, Text.isFree_nat i, .literal rfl, Text.isFree_nat i, .literal rfl, by simp⟩
  have arms : ∀ part ∈ (List.range count).map fun i => lightArm (("", ""), i), Text.IsFree part :=
    List.forall_mem_map.mpr fun i _ => arm i
  refine Text.isFree_join ?_
  simp only [List.forall_mem_cons]
  exact ⟨.literal rfl, Text.isFree_nat count, .literal rfl, Text.isFree_join arms, .literal rfl,
    .literal rfl, by simp⟩

end Stock

end RayShader
