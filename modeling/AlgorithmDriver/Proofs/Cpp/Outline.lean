import AlgorithmDriver.Proofs.Cpp.Grammar

/-!
# What a text shows of a description

A text does not show everything that a description says.  Of an array with a dimension of unknown
size it only shows how many dimensions there are, and so it does of every parameter; and callbacks
look like functions.  The `Outline` of an interface is what is left.

The text of a valid interface shows its outline and nothing else: what can be read off the tokens is
read off from left to right, each part being told apart from the next by how the next one begins.

* `Shows` — tokens that show something, whatever comes after them.
* `shows_declaration`, `shows_prototype`, `shows_algorithm` — each part of a text shows its outline.
* Main result: `renderInterface_eq_iff` — two texts are the same exactly if the outlines are.
-/

namespace AlgorithmDriver

/-! ## Outlines -/

namespace Outline

/-- The extent of a variable: all sizes if they are all known, and else the number of dimensions. -/
inductive Extent where
  | sizes (sizes : List UInt64)
  | dimensions (count : Nat)
  deriving DecidableEq, Repr

/-- A variable of the shared data. -/
structure Data where
  name : String
  extent : Extent
  deriving DecidableEq, Repr

/-- A parameter, with the number of its dimensions. -/
structure Parameter where
  name : String
  dimensions : Nat
  deriving DecidableEq, Repr

/-- A callback or a function. -/
structure Prototype where
  result : Option BaseType
  name : String
  parameters : List Parameter
  deriving DecidableEq, Repr

/-- An algorithm, with its callbacks before its functions. -/
structure Algorithm where
  name : String
  data : List Data
  prototypes : List Prototype
  deriving DecidableEq, Repr

end Outline

/-- What a text shows of an interface. -/
structure Outline where
  name : String
  algorithms : List Outline.Algorithm
  deriving DecidableEq, Repr

/-- What a declaration shows. -/
def Variable.outline (v : Variable) : Outline.Data where
  name := v.name
  extent :=
    match v.fixedSizes? with
    | some sizes => .sizes sizes
    | none => .dimensions v.dimensions.length

/-- What a parameter shows. -/
def Variable.parameterOutline (v : Variable) : Outline.Parameter where
  name := v.name
  dimensions := v.dimensions.length

/-- What a prototype shows. -/
def Function.outline (f : Function) : Outline.Prototype where
  result := f.result
  name := f.name
  parameters := f.parameters.toList.map Variable.parameterOutline

/-- What the namespace of an algorithm shows. -/
def Algorithm.outline (a : Algorithm) : Outline.Algorithm where
  name := a.name
  data := a.data.toList.map Variable.outline
  prototypes := (a.callbacks.toList ++ a.functions.toList).map Function.outline

/-- What the text of an interface shows. -/
def Interface.outline (i : Interface) : Outline where
  name := i.name
  algorithms := i.algorithms.toList.map Algorithm.outline

namespace Cpp

/-! ## The outline makes the text -/

/-- Lists that agree in what shows of their items agree in all that follows from it. -/
theorem map_eq_map_of {α β γ : Type} {shown : α → β} {made : α → γ}
    (h : ∀ a b, shown a = shown b → made a = made b) {as bs : List α}
    (he : as.map shown = bs.map shown) : as.map made = bs.map made := by
  rw [← List.forall₂_eq_eq_eq, List.forall₂_map_left_iff, List.forall₂_map_right_iff] at he ⊢
  exact he.imp h

theorem pointerType_congr {v w : Variable} (h : v.dimensions.length = w.dimensions.length) :
    pointerType v = pointerType w := by
  rw [pointerType, pointerType, h]

theorem parameter_congr {v w : Variable} (h : v.parameterOutline = w.parameterOutline) :
    parameter v = parameter w := by
  simp only [Variable.parameterOutline, Outline.Parameter.mk.injEq] at h
  rw [parameter, parameter, pointerType_congr h.2, h.1]

theorem declaration_congr {v w : Variable} (h : v.outline = w.outline) :
    declaration v = declaration w := by
  simp only [Variable.outline, Outline.Data.mk.injEq] at h
  obtain ⟨name, extent⟩ := h
  have same : baseType v.baseType = baseType w.baseType := by
    cases v.baseType
    cases w.baseType
    rfl
  rw [declaration, declaration]
  cases hv : v.fixedSizes? with
  | some sizes =>
    cases hw : w.fixedSizes? with
    | some sizes' =>
      simp only [hv, hw, Outline.Extent.sizes.injEq] at extent
      simp only [extent, name, same]
    | none => simp [hv, hw] at extent
  | none =>
    cases hw : w.fixedSizes? with
    | some sizes' => simp [hv, hw] at extent
    | none =>
      simp only [hv, hw, Outline.Extent.dimensions.injEq] at extent
      simp only [pointerType_congr extent, name]

theorem prototype_congr {f g : Function} (h : f.outline = g.outline) :
    prototype f = prototype g := by
  simp only [Function.outline, Outline.Prototype.mk.injEq] at h
  obtain ⟨result, name, parameters⟩ := h
  have texts : f.parameters.toList.map parameter = g.parameters.toList.map parameter :=
    map_eq_map_of (fun _ _ => parameter_congr) parameters
  rw [prototype, prototype, result, name, texts]

theorem algorithmLines_congr {a b : Algorithm} (h : a.outline = b.outline) :
    algorithmLines a = algorithmLines b := by
  simp only [Algorithm.outline, Outline.Algorithm.mk.injEq] at h
  obtain ⟨name, data, prototypes⟩ := h
  have declarations : a.data.toList.map declaration = b.data.toList.map declaration :=
    map_eq_map_of (fun _ _ => declaration_congr) data
  have lines : (a.callbacks.toList ++ a.functions.toList).map prototype =
      (b.callbacks.toList ++ b.functions.toList).map prototype :=
    map_eq_map_of (fun _ _ => prototype_congr) prototypes
  rw [List.map_append, List.map_append] at lines
  rw [algorithmLines, algorithmLines, blockLines, blockLines, List.append_assoc,
    List.append_assoc, declarations, lines, name]

theorem renderInterface_congr {a b : Interface} (h : a.outline = b.outline) :
    renderInterface a = renderInterface b := by
  simp only [Interface.outline, Outline.mk.injEq] at h
  obtain ⟨name, algorithms⟩ := h
  have blocks : a.algorithms.toList.map algorithmLines = b.algorithms.toList.map algorithmLines :=
    map_eq_map_of (fun _ _ => algorithmLines_congr) algorithms
  rw [renderInterface_eq_text, renderInterface_eq_text, interfaceLines, interfaceLines, name, blocks]

/-! ## The tokens show the outline -/

/-- The tokens of something show a part of it, and where they end, whatever comes after them. -/
def Shows {α β : Type} (tokens : α → List Token) (shown : α → β) : Prop :=
  ∀ a b rest rest', tokens a ++ rest = tokens b ++ rest' → shown a = shown b ∧ rest = rest'

variable {α β : Type} {tokens : α → List Token} {shown : α → β}

/-- Parts one after another, up to a token that none of them begins with. -/
theorem Shows.flatten (h : Shows tokens shown) {stop : Token}
    (hb : ∀ a, ∃ t ts, tokens a = t :: ts ∧ t ≠ stop) {as bs : List α} {rest rest' : List Token}
    (he : (as.map tokens).flatten ++ stop :: rest = (bs.map tokens).flatten ++ stop :: rest') :
    as.map shown = bs.map shown ∧ rest = rest' := by
  induction as generalizing bs with
  | nil =>
    cases bs with
    | nil => exact ⟨rfl, List.tail_eq_of_cons_eq he⟩
    | cons b bs =>
      obtain ⟨t, ts, ht, hne⟩ := hb b
      rw [List.map_cons, List.flatten_cons, ht] at he
      exact absurd (List.head_eq_of_cons_eq he).symm hne
  | cons a as ih =>
    cases bs with
    | nil =>
      obtain ⟨t, ts, ht, hne⟩ := hb a
      rw [List.map_cons, List.flatten_cons, ht] at he
      exact absurd (List.head_eq_of_cons_eq he) hne
    | cons b bs =>
      rw [List.map_cons, List.map_cons, List.flatten_cons, List.flatten_cons, List.append_assoc,
        List.append_assoc] at he
      obtain ⟨first, he⟩ := h a b _ _ he
      obtain ⟨others, he⟩ := ih he
      rw [List.map_cons, List.map_cons, first, others]
      exact ⟨rfl, he⟩

theorem withCommas_cons (part : List Token) (parts : List (List Token)) :
    withCommas (part :: parts) = part ++ (parts.map (.mark ',' :: ·)).flatten := by
  induction parts generalizing part with
  | nil => simp [withCommas]
  | cons next parts ih =>
    rw [withCommas, ih, List.map_cons, List.flatten_cons, List.cons_append]
    rintro ⟨⟩

/-- Parts with commas between them, up to another token. -/
theorem Shows.withCommas (h : Shows tokens shown) {stop : Token} (hs : stop ≠ .mark ',')
    (hb : ∀ a, ∃ t ts, tokens a = t :: ts ∧ t ≠ stop) {as bs : List α} {rest rest' : List Token}
    (he : Cpp.withCommas (as.map tokens) ++ stop :: rest =
      Cpp.withCommas (bs.map tokens) ++ stop :: rest') :
    as.map shown = bs.map shown ∧ rest = rest' := by
  cases as with
  | nil =>
    cases bs with
    | nil => exact ⟨rfl, List.tail_eq_of_cons_eq he⟩
    | cons b bs =>
      obtain ⟨t, ts, ht, hne⟩ := hb b
      rw [List.map_cons, withCommas_cons, ht] at he
      exact absurd (List.head_eq_of_cons_eq he).symm hne
  | cons a as =>
    cases bs with
    | nil =>
      obtain ⟨t, ts, ht, hne⟩ := hb a
      rw [List.map_cons, withCommas_cons, ht] at he
      exact absurd (List.head_eq_of_cons_eq he) hne
    | cons b bs =>
      rw [List.map_cons, List.map_cons, withCommas_cons, withCommas_cons, List.append_assoc,
        List.append_assoc, List.map_map, List.map_map] at he
      obtain ⟨first, he⟩ := h a b _ _ he
      -- Each of the others begins with its comma.
      have next : Shows (fun a => .mark ',' :: tokens a) shown := by
        intro a b rest rest' he
        exact h a b rest rest' (List.tail_eq_of_cons_eq he)
      obtain ⟨others, he⟩ := next.flatten (fun a => ⟨_, _, rfl, hs.symm⟩) he
      rw [List.map_cons, List.map_cons, first, others]
      exact ⟨rfl, he⟩

/-! ### Variables -/

/-- A word ends a row of stars. -/
theorem stars_cancel {m n : Nat} {name name' : String} {rest rest' : List Token}
    (h : List.replicate m (.mark '*') ++ .word name :: rest =
      List.replicate n (.mark '*') ++ .word name' :: rest') :
    m = n ∧ name = name' ∧ rest = rest' := by
  induction m generalizing n with
  | zero =>
    cases n with
    | zero => simpa using h
    | succ n => simp [List.replicate_succ] at h
  | succ m ih =>
    cases n with
    | zero => simp [List.replicate_succ] at h
    | succ n =>
      obtain ⟨count, same⟩ := ih (List.tail_eq_of_cons_eq h)
      exact ⟨congrArg (· + 1) count, same⟩

theorem shows_parameter : Shows parameterTokens Variable.parameterOutline := by
  intro v w rest rest' h
  simp only [parameterTokens, stars, List.cons_append, List.append_assoc, List.nil_append] at h
  obtain ⟨count, name, same⟩ := stars_cancel (List.tail_eq_of_cons_eq h)
  rw [Variable.parameterOutline, Variable.parameterOutline, count, name]
  exact ⟨rfl, same⟩

theorem shows_bracketed : Shows bracketedTokens (fun size : UInt64 => size) := by
  intro size size' rest rest' h
  simp only [bracketedTokens, List.cons_append, List.nil_append, List.cons.injEq,
    Token.number.injEq, true_and] at h
  exact ⟨UInt64.toNat_inj.1 (Decimal.text_injective h.1), h.2⟩

/-- A variable with a dimension of unknown size has a dimension. -/
theorem exists_stars {v : Variable} (h : v.fixedSizes? = none) :
    ∃ ts, stars v = .mark '*' :: ts := by
  rw [stars]
  cases hd : v.dimensions with
  | nil => simp [Variable.fixedSizes?, hd] at h
  | cons d ds => exact ⟨_, List.replicate_succ⟩

/-- A declaration with brackets and one with stars differ in their second token. -/
theorem declarationTokens_ne {v w : Variable} {sizes : List UInt64}
    (hv : v.fixedSizes? = some sizes) (hw : w.fixedSizes? = none) (rest rest' : List Token) :
    declarationTokens v ++ rest ≠ declarationTokens w ++ rest' := by
  obtain ⟨ts, begins⟩ := exists_stars hw
  simp [declarationTokens, hv, hw, begins]

theorem shows_declaration : Shows declarationTokens Variable.outline := by
  intro v w rest rest' h
  cases hv : v.fixedSizes? with
  | some sizes =>
    cases hw : w.fixedSizes? with
    | some sizes' =>
      simp only [declarationTokens, hv, hw, List.flatMap_def, List.cons_append, List.append_assoc,
        List.nil_append, List.cons.injEq, Token.word.injEq, true_and] at h
      obtain ⟨name, h⟩ := h
      obtain ⟨known, same⟩ := shows_bracketed.flatten (fun _ => ⟨_, _, rfl, by decide⟩) h
      rw [List.map_id', List.map_id'] at known
      simp only [Variable.outline, hv, hw, name, known]
      exact ⟨trivial, same⟩
    | none => exact absurd h (declarationTokens_ne hv hw rest rest')
  | none =>
    cases hw : w.fixedSizes? with
    | some sizes => exact absurd h.symm (declarationTokens_ne hw hv rest' rest)
    | none =>
      simp only [declarationTokens, hv, hw, stars, List.cons_append, List.append_assoc,
        List.nil_append] at h
      obtain ⟨count, name, same⟩ := stars_cancel (List.tail_eq_of_cons_eq h)
      simp only [Variable.outline, hv, hw, count, name]
      exact ⟨trivial, List.tail_eq_of_cons_eq same⟩

/-! ### Functions and algorithms -/

theorem shows_prototype : Shows prototypeTokens Function.outline := by
  intro f g rest rest' h
  simp only [prototypeTokens, List.cons_append, List.append_assoc, List.nil_append,
    List.cons.injEq, Token.word.injEq, true_and] at h
  obtain ⟨result, name, h⟩ := h
  obtain ⟨parameters, same⟩ := shows_parameter.withCommas (by decide)
    (fun _ => ⟨_, _, rfl, by decide⟩) h
  have types : f.result = g.result := by
    rcases hf : f.result with _ | ⟨⟩ <;> rcases hg : g.result with _ | ⟨⟩ <;>
      simp [hf, hg, resultType, baseType] at result ⊢
  rw [Function.outline, Function.outline, types, name, parameters]
  exact ⟨rfl, List.tail_eq_of_cons_eq same⟩

/-- The tokens of a member of an algorithm. -/
def oneMemberTokens : Variable ⊕ Function → List Token :=
  Sum.elim declarationTokens prototypeTokens

/-- A declaration and a prototype differ in their second token, or in their third. -/
theorem declarationTokens_ne_prototypeTokens (v : Variable) (f : Function)
    (rest rest' : List Token) : declarationTokens v ++ rest ≠ prototypeTokens f ++ rest' := by
  rw [declarationTokens, prototypeTokens]
  cases known : v.fixedSizes? with
  | some sizes =>
    cases sizes with
    | nil => simp
    | cons size sizes => simp [bracketedTokens]
  | none =>
    obtain ⟨ts, begins⟩ := exists_stars known
    simp [begins]

theorem shows_member : Shows oneMemberTokens (Sum.map Variable.outline Function.outline) := by
  rintro (v | f) (w | g) rest rest' h
  · obtain ⟨outline, same⟩ := shows_declaration v w rest rest' h
    exact ⟨congrArg Sum.inl outline, same⟩
  · exact absurd h (declarationTokens_ne_prototypeTokens v g rest rest')
  · exact absurd h.symm (declarationTokens_ne_prototypeTokens w f rest' rest)
  · obtain ⟨outline, same⟩ := shows_prototype f g rest rest' h
    exact ⟨congrArg Sum.inr outline, same⟩

/-- The members of an algorithm, with those that are called after its data. -/
def members (a : Algorithm) : List (Variable ⊕ Function) :=
  a.data.toList.map .inl ++ (a.callbacks.toList ++ a.functions.toList).map .inr

theorem memberTokens_eq (a : Algorithm) : memberTokens a = (members a).map oneMemberTokens := by
  simp [memberTokens, members, oneMemberTokens, Function.comp_def]

/-- Every member begins with the type of something. -/
theorem oneMemberTokens_begin (m : Variable ⊕ Function) :
    ∃ t ts, oneMemberTokens m = t :: ts ∧ t ≠ .mark '\x7d' := by
  rcases m with v | f
  · rw [oneMemberTokens, Sum.elim_inl, declarationTokens]
    split
    · exact ⟨_, _, rfl, by decide⟩
    · exact ⟨_, _, rfl, by decide⟩
  · exact ⟨_, _, rfl, by simp⟩

/-- What comes first and what comes next can be told apart by its sort. -/
theorem sum_append_cancel {β γ : Type} {xs xs' : List β} {ys ys' : List γ}
    (h : xs.map Sum.inl ++ ys.map Sum.inr = xs'.map Sum.inl ++ ys'.map Sum.inr) :
    xs = xs' ∧ ys = ys' := by
  constructor
  · simpa [List.filterMap_append, List.filterMap_map, Function.comp_def] using
      congrArg (List.filterMap Sum.getLeft?) h
  · simpa [List.filterMap_append, List.filterMap_map, Function.comp_def] using
      congrArg (List.filterMap Sum.getRight?) h

theorem shows_algorithm : Shows algorithmTokens Algorithm.outline := by
  intro a b rest rest' h
  simp only [algorithmTokens, scopeTokens, memberTokens_eq, List.cons_append, List.append_assoc,
    List.nil_append, List.cons.injEq, Token.word.injEq, true_and] at h
  obtain ⟨name, h⟩ := h
  obtain ⟨outlines, same⟩ := shows_member.flatten oneMemberTokens_begin h
  have sorted : ∀ a : Algorithm, (members a).map (Sum.map Variable.outline Function.outline) =
      (a.data.toList.map Variable.outline).map .inl ++
        ((a.callbacks.toList ++ a.functions.toList).map Function.outline).map .inr := by
    intro a
    simp [members, Function.comp_def]
  rw [sorted, sorted] at outlines
  obtain ⟨data, prototypes⟩ := sum_append_cancel outlines
  rw [Algorithm.outline, Algorithm.outline, name, data, prototypes]
  exact ⟨rfl, same⟩

/-! ## Whole texts -/

/-- Interfaces with the same tokens have the same outline. -/
theorem outline_eq_of_tokens {a b : Interface} (h : interfaceTokens a = interfaceTokens b) :
    a.outline = b.outline := by
  simp only [interfaceTokens, scopeTokens, List.cons.injEq, Token.word.injEq, true_and] at h
  obtain ⟨name, h⟩ := h
  obtain ⟨algorithms, -⟩ := shows_algorithm.flatten (fun _ => ⟨_, _, rfl, by simp⟩) h
  rw [Interface.outline, Interface.outline, name, algorithms]

/-- **A text shows the outline and nothing else.**  The texts of two valid interfaces are the same
exactly if their outlines are: the names of the interfaces, and in the order of declaration for each
algorithm its name, its data with all sizes or else the number of dimensions, and its callbacks and
functions with their results and parameters. -/
theorem renderInterface_eq_iff {a b : Interface} (ha : isIdentifier a.name = true) (va : a.Valid)
    (hb : isIdentifier b.name = true) (vb : b.Valid) :
    renderInterface a = renderInterface b ↔ a.outline = b.outline := by
  constructor
  · intro h
    have tokens := lex_renderInterface ha va
    rw [h, lex_renderInterface hb vb] at tokens
    exact outline_eq_of_tokens (Option.some.inj tokens).symm
  · exact renderInterface_congr

/-- A table of edges. -/
def edges (dimensions : List Dimension) : Variable :=
  { name := "edges", baseType := .int, dimensions }

/-- A function without parameters. -/
def visit : NamedList Function := ⟨[("visit", { name := "visit" })]⟩

/-- An algorithm on a table of edges. -/
def search (dimensions : List Dimension) (callbacks functions : NamedList Function) : Algorithm :=
  { name := "search", data := ⟨[("edges", edges dimensions)]⟩, callbacks, functions }

/-- An interface with one algorithm. -/
def graphs (dimensions : List Dimension) (callbacks functions : NamedList Function) : Interface :=
  { name := "graphs", algorithms := ⟨[("search", search dimensions callbacks functions)]⟩ }

theorem valid_visit : visit.DeeplyValid Function.Valid := by
  have added : NamedList.empty.insert { name := "visit" } = .ok visit := by decide +kernel
  exact NamedList.deeplyValid_empty.insert Function.valid_new added

/-- What was added piece by piece is valid. -/
theorem valid_graphs {dimensions : List Dimension} {callbacks functions : NamedList Function}
    (hc : callbacks.DeeplyValid Function.Valid) (hf : functions.DeeplyValid Function.Valid)
    (added : NamedList.empty.insert (edges dimensions) = .ok ⟨[("edges", edges dimensions)]⟩)
    (exposed : NamedList.empty.insert (search dimensions callbacks functions) =
      .ok ⟨[("search", search dimensions callbacks functions)]⟩) :
    (graphs dimensions callbacks functions).Valid :=
  NamedList.deeplyValid_empty.insert ⟨NamedList.valid_empty.insert added, hc, hf⟩ exposed

/-- Of a size that stands beside an unknown one the text shows nothing, nor whether a function is
called back. -/
theorem renderInterface_graphs :
    graphs [⟨.fixed 2⟩, ⟨.unbounded⟩] visit .empty ≠
        graphs [⟨.unbounded⟩, ⟨.fixed 7⟩] .empty visit ∧
      renderInterface (graphs [⟨.fixed 2⟩, ⟨.unbounded⟩] visit .empty) =
        renderInterface (graphs [⟨.unbounded⟩, ⟨.fixed 7⟩] .empty visit) := by
  refine ⟨by decide, ?_⟩
  have first : (graphs [⟨.fixed 2⟩, ⟨.unbounded⟩] visit .empty).Valid :=
    valid_graphs valid_visit NamedList.deeplyValid_empty (by decide +kernel) (by decide +kernel)
  have second : (graphs [⟨.unbounded⟩, ⟨.fixed 7⟩] .empty visit).Valid :=
    valid_graphs NamedList.deeplyValid_empty valid_visit (by decide +kernel) (by decide +kernel)
  have named : isIdentifier "graphs" = true := by decide +kernel
  exact (renderInterface_eq_iff named first named second).2 (by decide)

end Cpp

end AlgorithmDriver
