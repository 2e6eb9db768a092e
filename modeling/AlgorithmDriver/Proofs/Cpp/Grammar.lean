import AlgorithmDriver.Proofs.Cpp.Tokens
import AlgorithmDriver.Proofs.Model.Validity

/-!
# The grammar of generated declarations

What a generated text may look like: a directive, and a namespace with one namespace for each
algorithm, which holds declarations and then prototypes.  Every name is an identifier, every size is
a numeral of a positive number of 64 bits, and names that are declared side by side are distinct.

The text of an interface that is valid at every depth is derived by this grammar.  Nothing is
checked when the text is made: that names cannot break out of their places rests on the collections
that they were put into.

* `lex_renderInterface` — the text of a valid interface is split into the tokens that it should be.
* `isInterface_tokens` — these tokens are derived by the grammar.
-/

namespace AlgorithmDriver.Cpp

/-! ## The grammar -/

/-- Any number of parts, one for each of the names. -/
inductive Repeated (Part : String → List Token → Prop) : List String → List Token → Prop
  | nil : Repeated Part [] []
  | cons {name : String} {names : List String} {ts us : List Token} : Part name ts →
      Repeated Part names us → Repeated Part (name :: names) (ts ++ us)

/-- Any number of parts with commas between them, one for each of the names. -/
inductive CommaSeparated (Part : String → List Token → Prop) : List String → List Token → Prop
  | nil : CommaSeparated Part [] []
  | one {name : String} {ts : List Token} : Part name ts → CommaSeparated Part [name] ts
  | cons {name next : String} {names : List String} {ts us : List Token} : Part name ts →
      CommaSeparated Part (next :: names) us →
      CommaSeparated Part (name :: next :: names) (ts ++ .mark ',' :: us)

/-- The numeral of a positive number of 64 bits, without zeros at the beginning. -/
structure IsSize (text : List Char) : Prop where
  digits : ∀ c ∈ text, Decimal.isDigit c = true
  head : ∃ c cs, text = c :: cs ∧ c ≠ '0'
  positive : 1 ≤ Decimal.value text
  bounded : Decimal.value text < 2 ^ 64

/-- Any number of sizes in brackets. -/
inductive IsBounds : List Token → Prop
  | nil : IsBounds []
  | cons {size : String} {ts : List Token} : IsSize size.toList → IsBounds ts →
      IsBounds (.mark '[' :: .number size :: .mark ']' :: ts)

/-- The declaration of the name. -/
inductive IsDeclaration (name : String) : List Token → Prop
  | array {ts : List Token} : isIdentifier name = true → IsBounds ts →
      IsDeclaration name (.word "int" :: .word name :: (ts ++ [.mark ';']))
  | pointer {stars : Nat} : isIdentifier name = true → 1 ≤ stars →
      IsDeclaration name
        (.word "int" :: (List.replicate stars (.mark '*') ++ [.word name, .mark ';']))

/-- A parameter of the name. -/
inductive IsParameter (name : String) : List Token → Prop
  | mk {stars : Nat} : isIdentifier name = true →
      IsParameter name (.word "int" :: (List.replicate stars (.mark '*') ++ [.word name]))

/-- The prototype of a function of the name. -/
inductive IsPrototype (name : String) : List Token → Prop
  | mk {result : String} {parameters : List String} {ts : List Token} :
      result = "int" ∨ result = "void" → isIdentifier name = true →
      CommaSeparated IsParameter parameters ts → parameters.Nodup →
      IsPrototype name (.word result :: .word name :: .mark '(' :: (ts ++ [.mark ')', .mark ';']))

/-- The namespace of an algorithm of the name. -/
inductive IsAlgorithm (name : String) : List Token → Prop
  | mk {data functions : List String} {ds fs : List Token} : isIdentifier name = true →
      Repeated IsDeclaration data ds → Repeated IsPrototype functions fs →
      (data ++ functions).Nodup →
      IsAlgorithm name
        (.word "namespace" :: .word name :: .mark '\x7b' :: (ds ++ fs ++ [.mark '\x7d']))

/-- A whole text. -/
inductive IsInterface : List Token → Prop
  | mk {name : String} {algorithms : List String} {ts : List Token} : isIdentifier name = true →
      Repeated IsAlgorithm algorithms ts → algorithms.Nodup →
      IsInterface (.directive "pragma once" :: .word "namespace" :: .word name :: .mark '\x7b' ::
        (ts ++ [.mark '\x7d']))

theorem Repeated.append {Part : String → List Token → Prop} {names names' : List String}
    {ts ts' : List Token} (h : Repeated Part names ts) (h' : Repeated Part names' ts') :
    Repeated Part (names ++ names') (ts ++ ts') := by
  induction h with
  | nil => exact h'
  | cons hp _ ih =>
    rw [List.cons_append, List.append_assoc]
    exact .cons hp ih

/-- Parts that are made of items, one of each. -/
theorem repeated_map {α : Type} {Part : String → List Token → Prop} {items : List α}
    {name : α → String} {tokens : α → List Token}
    (h : ∀ item ∈ items, Part (name item) (tokens item)) :
    Repeated Part (items.map name) (items.map tokens).flatten := by
  induction items with
  | nil => exact .nil
  | cons item items ih =>
    exact .cons (h item List.mem_cons_self) (ih fun i hi => h i (List.mem_cons_of_mem item hi))

/-! ## The tokens of descriptions -/

/-- The marks of a pointer, one for each dimension. -/
def stars (v : Variable) : List Token := List.replicate v.dimensions.length (.mark '*')

/-- The tokens of a parameter. -/
def parameterTokens (v : Variable) : List Token := .word "int" :: (stars v ++ [.word v.name])

/-- The tokens of a dimension of known size. -/
def bracketedTokens (size : UInt64) : List Token :=
  [.mark '[', .number (Decimal.text size.toNat), .mark ']']

/-- The tokens of a declaration. -/
def declarationTokens (v : Variable) : List Token :=
  match v.fixedSizes? with
  | some sizes =>
    .word "int" :: .word v.name :: (sizes.flatMap bracketedTokens ++ [.mark ';'])
  | none => .word "int" :: (stars v ++ [.word v.name, .mark ';'])

/-- Tokens of parts with commas between them. -/
def withCommas : List (List Token) → List Token
  | [] => []
  | [part] => part
  | part :: parts => part ++ .mark ',' :: withCommas parts

/-- The tokens of a prototype. -/
def prototypeTokens (f : Function) : List Token :=
  .word (resultType f.result) :: .word f.name :: .mark '(' ::
    (withCommas (f.parameters.toList.map parameterTokens) ++ [.mark ')', .mark ';'])

/-- The tokens of a namespace, given those of its lines. -/
def scopeTokens (name : String) (body : List Token) : List Token :=
  .word "namespace" :: .word name :: .mark '\x7b' :: (body ++ [.mark '\x7d'])

/-- The tokens of the members of an algorithm, one list for each line. -/
def memberTokens (a : Algorithm) : List (List Token) :=
  a.data.toList.map declarationTokens ++ a.callbacks.toList.map prototypeTokens ++
    a.functions.toList.map prototypeTokens

/-- The tokens of an algorithm. -/
def algorithmTokens (a : Algorithm) : List Token := scopeTokens a.name (memberTokens a).flatten

/-- The tokens of an interface. -/
def interfaceTokens (i : Interface) : List Token :=
  .directive "pragma once" ::
    scopeTokens i.name (i.algorithms.toList.map algorithmTokens).flatten

/-! ## The text spells the tokens -/

theorem isWord_of_isIdentifier {name : String} (h : isIdentifier name = true) :
    isWord name.toList = true := by
  rw [isIdentifier, Bool.and_eq_true] at h
  exact h.1

theorem ne_empty_of_isIdentifier {name : String} (h : isIdentifier name = true) : name ≠ "" := by
  rintro rfl
  exact absurd h (by decide)

theorem toList_pointerType (v : Variable) :
    (pointerType v).toList = "int".toList ++ List.replicate v.dimensions.length '*' := by
  rw [pointerType, String.toList_append, String.toList_ofList]
  cases v.baseType
  rfl

theorem spells_stars (n : Nat) {text : List Char} {ts : List Token} (h : Spells text ts) :
    Spells (List.replicate n '*' ++ text) (List.replicate n (.mark '*') ++ ts) := by
  induction n with
  | zero => exact h
  | succ n ih => exact .mark (by decide) ih

/-- The type of a pointer with a name after it. -/
theorem spells_pointer {v : Variable} (hn : isIdentifier v.name = true) {text : List Char}
    {ts : List Token} (hb : ∃ c cs, text = c :: cs ∧ isNumberPart c = false) (h : Spells text ts) :
    Spells ((pointerType v).toList ++ ' ' :: (v.name.toList ++ text))
      (.word "int" :: (stars v ++ .word v.name :: ts)) := by
  rw [toList_pointerType, List.append_assoc]
  refine .word (by decide) ?_ ?_
  · cases v.dimensions.length with
    | zero => exact ⟨' ', _, rfl, by decide⟩
    | succ n => exact ⟨'*', _, rfl, by decide⟩
  · exact spells_stars _ (.space (by decide) (.word (isWord_of_isIdentifier hn) hb h))

theorem spells_parameter {v : Variable} (hn : isIdentifier v.name = true) {text : List Char}
    {ts : List Token} (hb : ∃ c cs, text = c :: cs ∧ isNumberPart c = false) (h : Spells text ts) :
    Spells ((parameter v).toList ++ text) (parameterTokens v ++ ts) := by
  have hp := spells_pointer hn hb h
  rw [parameter, if_neg (ne_empty_of_isIdentifier hn), parameterTokens]
  simpa using hp

/-- The parameters of a function, with what comes after them. -/
theorem spells_parameters {vs : List Variable} (hn : ∀ v ∈ vs, isIdentifier v.name = true)
    {text : List Char} {ts : List Token} (hb : ∃ c cs, text = c :: cs ∧ isNumberPart c = false)
    (h : Spells text ts) :
    Spells ((", ".intercalate (vs.map parameter)).toList ++ text)
      (withCommas (vs.map parameterTokens) ++ ts) := by
  induction vs with
  | nil => simpa [withCommas] using h
  | cons v vs ih =>
    have hv := hn v List.mem_cons_self
    have hrest := ih fun u hu => hn u (List.mem_cons_of_mem v hu)
    cases vs with
    | nil => simpa [withCommas] using spells_parameter hv hb h
    | cons u us =>
      have hcomma : Spells
          (',' :: ' ' :: ((", ".intercalate ((u :: us).map parameter)).toList ++ text))
          (.mark ',' :: (withCommas ((u :: us).map parameterTokens) ++ ts)) :=
        .mark (by decide) (.space (by decide) hrest)
      have hall := spells_parameter hv ⟨',', _, rfl, by decide⟩ hcomma
      rw [List.map_cons, List.map_cons, String.intercalate_cons_cons]
      simpa [withCommas] using hall

theorem spells_bracketed (size : UInt64) {text : List Char} {ts : List Token} (h : Spells text ts) :
    Spells ((bracketed size).toList ++ text) (bracketedTokens size ++ ts) := by
  have hb : Spells ('[' :: ((Decimal.text size.toNat).toList ++ ']' :: text))
      (.mark '[' :: .number (Decimal.text size.toNat) :: .mark ']' :: ts) :=
    .mark (by decide) (.number _ ⟨']', _, rfl, by decide⟩ (.mark (by decide) h))
  rw [bracketed]
  simpa [bracketedTokens] using hb

/-- The sizes of an array and the end of its declaration. -/
theorem spells_sizes (sizes : List UInt64) :
    Spells ((String.join (sizes.map bracketed)).toList ++ [';'])
      (sizes.flatMap bracketedTokens ++ [.mark ';']) := by
  induction sizes with
  | nil => exact spells_mark (by decide)
  | cons size sizes ih =>
    rw [List.map_cons, String.join_cons, String.toList_append, List.flatMap_cons,
      List.append_assoc, List.append_assoc]
    exact spells_bracketed size ih

theorem sizes_begin (sizes : List UInt64) :
    ∃ c cs, (String.join (sizes.map bracketed)).toList ++ [';'] = c :: cs ∧
      isNumberPart c = false := by
  cases sizes with
  | nil => exact ⟨';', [], rfl, by decide⟩
  | cons size sizes =>
    rw [List.map_cons, String.join_cons, bracketed]
    refine ⟨'[', _, by simp only [String.toList_append, List.append_assoc]; rfl, by decide⟩

theorem spells_declaration {v : Variable} (hn : isIdentifier v.name = true) :
    Spells (declaration v).toList (declarationTokens v) := by
  rw [declaration, declarationTokens]
  cases v.fixedSizes? with
  | none =>
    have hend : Spells [';'] [.mark ';'] := spells_mark (by decide)
    have hp := spells_pointer hn ⟨';', _, rfl, by decide⟩ hend
    simpa using hp
  | some sizes =>
    have hname := Spells.word (isWord_of_isIdentifier hn) (sizes_begin sizes) (spells_sizes sizes)
    have hint : Spells ("int".toList ++ ' ' :: (v.name.toList ++
        ((String.join (sizes.map bracketed)).toList ++ [';'])))
        (.word "int" :: .word v.name :: (sizes.flatMap bracketedTokens ++ [.mark ';'])) :=
      .word (by decide) ⟨' ', _, rfl, by decide⟩ (.space (by decide) hname)
    have htype : Cpp.baseType v.baseType = "int" := by cases v.baseType; rfl
    simpa [htype] using hint

theorem spells_prototype {f : Function} (hn : isIdentifier f.name = true)
    (hp : ∀ v ∈ f.parameters.toList, isIdentifier v.name = true) :
    Spells (prototype f).toList (prototypeTokens f) := by
  have hend : Spells [')', ';'] [.mark ')', .mark ';'] :=
    .mark (by decide) (spells_mark (by decide))
  have hparameters := spells_parameters hp ⟨')', _, rfl, by decide⟩ hend
  have hname := Spells.word (isWord_of_isIdentifier hn) ⟨'(', _, rfl, by decide⟩
    (Spells.mark (by decide : isMark '(' = true) hparameters)
  have hresult : isWord (resultType f.result).toList = true := by
    cases f.result with
    | none => decide
    | some t => cases t; decide
  have hall := Spells.word hresult ⟨' ', _, rfl, by decide⟩
    (Spells.space (by decide : isSpace ' ' = true) hname)
  rw [prototype, prototypeTokens]
  simpa using hall

/-- A namespace spells what its lines spell between its braces. -/
theorem linesSpell_scope {name : String} (hn : isIdentifier name = true) {body : List String}
    {tss : List (List Token)} (h : LinesSpell body tss) :
    ∃ lss, LinesSpell (scope name body) lss ∧ lss.flatten = scopeTokens name tss.flatten := by
  have hopen : ∀ {text : List Char} {ts : List Token}, Spells text ts →
      Spells ("namespace ".toList ++ (name.toList ++ ' ' :: '\x7b' :: text))
        (.word "namespace" :: .word name :: .mark '\x7b' :: ts) := by
    intro text ts ht
    have hname := Spells.word (isWord_of_isIdentifier hn) ⟨' ', _, rfl, by decide⟩
      (Spells.space (by decide : isSpace ' ' = true) (.mark (by decide : isMark '\x7b' = true) ht))
    exact Spells.word (w := "namespace") (by decide) ⟨' ', _, rfl, by decide⟩
      (.space (by decide) hname)
  cases h with
  | nil =>
    refine ⟨[_], .cons ?_ .nil, List.flatten_singleton⟩
    have hline := hopen (spells_mark (by decide : isMark '\x7d' = true))
    simpa [scopeTokens] using hline
  | @cons line ts body tss hl hrest =>
    have hbody : LinesSpell ((line :: body).map indent) (ts :: tss) :=
      LinesSpell.indent (.cons hl hrest)
    have hfirst : Spells ("namespace " ++ name ++ " \x7b").toList
        [.word "namespace", .word name, .mark '\x7b'] := by
      simpa using hopen spells_nil
    have hlast : LinesSpell ["\x7d"] [[.mark '\x7d']] := .cons (spells_mark (by decide)) .nil
    refine ⟨[.word "namespace", .word name, .mark '\x7b'] :: (ts :: tss ++ [[.mark '\x7d']]),
      .cons hfirst (hbody.append hlast), ?_⟩
    simp [scopeTokens]

theorem linesSpell_prototypes {l : NamedList Function} (hl : l.DeeplyValid Function.Valid) :
    LinesSpell (l.toList.map prototype) (l.toList.map prototypeTokens) :=
  linesSpell_map fun f hf => spells_prototype (hl.valid.isIdentifier_name hf)
    fun _ hv => NamedList.Valid.isIdentifier_name (hl.inside f hf) hv

theorem linesSpell_algorithm {a : Algorithm} (hn : isIdentifier a.name = true) (ha : a.Valid) :
    ∃ lss, LinesSpell (algorithmLines a) lss ∧ lss.flatten = algorithmTokens a := by
  have data : LinesSpell (blockLines a.data) (a.data.toList.map declarationTokens) :=
    linesSpell_map fun v hv => spells_declaration (ha.data.isIdentifier_name hv)
  have members : LinesSpell
      (blockLines a.data ++ a.callbacks.toList.map prototype ++ a.functions.toList.map prototype)
      (memberTokens a) :=
    (data.append (linesSpell_prototypes ha.callbacks)).append (linesSpell_prototypes ha.functions)
  exact linesSpell_scope hn members

/-- The text of a valid interface is split into its tokens. -/
theorem lex_renderInterface {i : Interface} (hn : isIdentifier i.name = true) (hi : i.Valid) :
    lex (renderInterface i).toList = some (interfaceTokens i) := by
  have blocks : List.Forall₂
      (fun lines ts => ∃ lss, LinesSpell lines lss ∧ lss.flatten = ts)
      (i.algorithms.toList.map algorithmLines) (i.algorithms.toList.map algorithmTokens) :=
    List.forall₂_map_left_iff.2 <| List.forall₂_map_right_iff.2 <| List.forall₂_same.2 fun a ha =>
      linesSpell_algorithm (hi.valid.isIdentifier_name ha) (hi.inside a ha)
  obtain ⟨bss, hblocks, hflat⟩ := separated_spell blocks
  obtain ⟨lss, hlines, hscope⟩ := linesSpell_scope hn hblocks
  have hblank : LinesSpell [""] [[]] := .cons spells_nil .nil
  have hrest : Spells
      (text ("" :: scope i.name (separated (i.algorithms.toList.map algorithmLines)))).toList
      ([] :: lss).flatten := spells_text (by simp) (hblank.append hlines)
  have hinline := List.all_eq_true.1 (show "pragma once".toList.all isInLine = true by decide)
  have hfirst := lex_directive "pragma once" hinline hrest.lex_eq
  have htext : (renderInterface i).toList = '#' :: ("pragma once".toList ++ '\n' ::
      (text ("" :: scope i.name (separated (i.algorithms.toList.map algorithmLines)))).toList) := by
    rw [renderInterface_eq_text, interfaceLines, List.cons_append, toList_text (by simp),
      toList_text (by simp), List.flatMap_cons]
    rfl
  rw [htext, hfirst, interfaceTokens, ← hflat, ← hscope]
  rfl

/-! ## The tokens are derived -/

theorem isSize_text {size : UInt64} (h : size ≠ 0) : IsSize (Decimal.text size.toNat).toList := by
  have hpos : 0 < size.toNat := Nat.pos_of_ne_zero fun he => h (UInt64.toNat_inj.1 he)
  rw [Decimal.text, String.toList_ofList]
  refine ⟨Decimal.isDigit_of_mem_digits _, Decimal.digits_head hpos, ?_, ?_⟩
  · rw [Decimal.value_digits]
    exact hpos
  · rw [Decimal.value_digits]
    exact size.toNat_lt

theorem isBounds_sizes {sizes : List UInt64} (h : ∀ size ∈ sizes, size ≠ 0) :
    IsBounds (sizes.flatMap bracketedTokens) := by
  induction sizes with
  | nil => exact .nil
  | cons size sizes ih =>
    exact .cons (isSize_text (h size List.mem_cons_self))
      (ih fun s hs => h s (List.mem_cons_of_mem size hs))

/-- Sizes that are known in advance are those of some dimensions. -/
theorem exists_of_mem_sizes {ds : List Dimension} {sizes : List UInt64}
    (h : ds.mapM Dimension.size? = some sizes) :
    ∀ size ∈ sizes, ∃ d ∈ ds, d.extent = .fixed size := by
  induction ds generalizing sizes with
  | nil =>
    obtain rfl : sizes = [] := by simpa using h.symm
    simp
  | cons d ds ih =>
    rw [List.mapM_cons] at h
    obtain ⟨first, hfirst, hrest⟩ := Option.bind_eq_some_iff.1 h
    obtain ⟨others, hothers, he⟩ := Option.bind_eq_some_iff.1 hrest
    obtain rfl : first :: others = sizes := Option.some.inj he
    intro size hs
    rcases List.mem_cons.1 hs with rfl | hs
    · refine ⟨d, List.mem_cons_self, ?_⟩
      rw [Dimension.size?] at hfirst
      split at hfirst
      · cases hfirst
      · rename_i known hd
        rw [hd, Option.some.inj hfirst]
    · obtain ⟨e, he, hsize⟩ := ih hothers size hs
      exact ⟨e, List.mem_cons_of_mem d he, hsize⟩

/-- The known sizes of a variable without empty dimensions are positive. -/
theorem ne_zero_of_fixedSizes? {v : Variable} (hv : v.NoZeroExtent) {sizes : List UInt64}
    (h : v.fixedSizes? = some sizes) : ∀ size ∈ sizes, size ≠ 0 := by
  rintro size hs rfl
  obtain ⟨d, hd, hsize⟩ := exists_of_mem_sizes h 0 hs
  exact hv d hd hsize

theorem isDeclaration_tokens {v : Variable} (hn : isIdentifier v.name = true)
    (hv : v.NoZeroExtent) : IsDeclaration v.name (declarationTokens v) := by
  rw [declarationTokens]
  cases h : v.fixedSizes? with
  | some sizes => exact .array hn (isBounds_sizes (ne_zero_of_fixedSizes? hv h))
  | none =>
    have hlength : 1 ≤ v.dimensions.length := by
      refine List.length_pos_iff.2 ?_
      intro he
      rw [Variable.fixedSizes?, he] at h
      cases h
    exact .pointer hn hlength

/-- The parameters of a function, separated by commas. -/
theorem commaSeparated_parameters {vs : List Variable}
    (hn : ∀ v ∈ vs, isIdentifier v.name = true) :
    CommaSeparated IsParameter (vs.map Variable.name) (withCommas (vs.map parameterTokens)) := by
  induction vs with
  | nil => exact .nil
  | cons v vs ih =>
    have hv : IsParameter v.name (parameterTokens v) := .mk (hn v List.mem_cons_self)
    have hrest := ih fun u hu => hn u (List.mem_cons_of_mem v hu)
    cases vs with
    | nil => exact .one hv
    | cons u us => exact .cons hv hrest

theorem isPrototype_tokens {f : Function} (hn : isIdentifier f.name = true) (hf : f.Valid) :
    IsPrototype f.name (prototypeTokens f) := by
  have hnames : f.parameters.names = f.parameters.toList.map Variable.name :=
    NamedList.Valid.names_eq hf
  have hnamed : ∀ v ∈ f.parameters.toList, isIdentifier v.name = true :=
    fun v hv => NamedList.Valid.isIdentifier_name hf hv
  refine .mk ?_ hn (commaSeparated_parameters hnamed) ?_
  · cases f.result with
    | none => exact Or.inr rfl
    | some t => cases t; exact Or.inl rfl
  · rw [← hnames]
    exact NamedList.Valid.distinct hf

theorem repeated_prototypes {l : NamedList Function} (hl : l.DeeplyValid Function.Valid) :
    Repeated IsPrototype l.names (l.toList.map prototypeTokens).flatten := by
  rw [hl.valid.names_eq]
  exact repeated_map fun f hf => isPrototype_tokens (hl.valid.isIdentifier_name hf) (hl.inside f hf)

theorem isAlgorithm_tokens {a : Algorithm} (hn : isIdentifier a.name = true) (ha : a.Valid)
    (hd : a.DistinctMembers) : IsAlgorithm a.name (algorithmTokens a) := by
  have data : Repeated IsDeclaration a.data.names
      (a.data.toList.map declarationTokens).flatten := by
    rw [ha.data.names_eq]
    exact repeated_map fun v hv =>
      isDeclaration_tokens (ha.data.isIdentifier_name hv) (ha.data.sound v hv)
  have functions := (repeated_prototypes ha.callbacks).append (repeated_prototypes ha.functions)
  have hdistinct : (a.data.names ++ (a.callbacks.names ++ a.functions.names)).Nodup := by
    rw [← List.append_assoc]
    exact hd
  have htokens : algorithmTokens a = .word "namespace" :: .word a.name :: .mark '\x7b' ::
      ((a.data.toList.map declarationTokens).flatten ++
        ((a.callbacks.toList.map prototypeTokens).flatten ++
          (a.functions.toList.map prototypeTokens).flatten) ++ [.mark '\x7d']) := by
    simp [algorithmTokens, scopeTokens, memberTokens]
  rw [htokens]
  exact .mk hn data functions hdistinct

/-- The tokens of a valid interface are derived by the grammar. -/
theorem isInterface_tokens {i : Interface} (hn : isIdentifier i.name = true) (hi : i.Valid) :
    IsInterface (interfaceTokens i) := by
  refine .mk hn ?_ hi.valid.distinct
  rw [hi.valid.names_eq]
  exact repeated_map fun a ha =>
    isAlgorithm_tokens (hi.valid.isIdentifier_name ha) (hi.inside a ha) (hi.valid.sound a ha)

end AlgorithmDriver.Cpp
