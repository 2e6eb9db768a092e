import AlgorithmDriver.Proofs.Json.Ensure
import AlgorithmDriver.Proofs.Json.Position
import AlgorithmDriver.Proofs.Json.Structure

/-!
# Loading commits to the first problem

Readers look at no more of a document than they need: what they answer for a text that does not end
in a number they answer for every longer text too.  Only the place of a problem that nothing has
settled when the text ends can move on, to where the list or the object around the problem is left.

* `Reader.Commits` — what that means for a reader; each way of building readers hands it on.
* `Bracket.leaves` — leaving a list or an object leads to the same place, or on past its end.
* `Value.load_append` — what is loaded from a text and what is loaded when more text follows it, with
  the lines and columns that are reported.
-/

namespace AlgorithmDriver

namespace Json

variable {α β : Type} {d q cs rest : List Char}

/-! ## Readers -/

/-- A string, or something in its place that cannot become one. -/
theorem Ready.readString (hd : ¬ EndsInNumber d) (h : Ready d cs) (expected : String) :
    Commits q (fun r => Left d r.2) (followed q) (readString expected cs)
      (readString expected (cs ++ q)) := by
  unfold Json.readString
  cases hb : Json.skipBlank cs with
  | nil => exact .unfinished
  | cons c rest =>
    rw [skipBlank_followed hb]
    dsimp only
    split_ifs with hq
    · subst hq
      exact (h.past_blanks hb).left.readText
    · exact (h.past_blanks hb).unexpected hd _

/-- What a reader answers for a document that does not end in a number it answers for every longer
one; without any text it waits for more. -/
structure Reader.Commits (r : Reader α) : Prop where
  waits : ∃ what, r.read [] = .error (.unfinished what)
  read : ∀ {d cs : List Char} (q : List Char), ¬ EndsInNumber d → Ready d cs →
    Json.Commits q (fun p => Left d p.2) (followed q) (r.read cs) (r.read (cs ++ q))

namespace Reader

variable {r : Reader α}

theorem commits_string : Reader.string.Commits where
  waits := ⟨.value, rfl⟩
  read _ hd h := h.readString hd "a string"

theorem commits_null : Reader.null.Commits where
  waits := ⟨.value, rfl⟩
  read {d cs} q hd h := by
    change Json.Commits _ _ _ (readNull cs) (readNull (cs ++ q))
    unfold readNull
    cases hb : Json.skipBlank cs with
    | nil => exact .unfinished
    | cons c rest =>
      rw [skipBlank_followed hb]
      dsimp only
      split_ifs with hn
      · subst hn
        have hw := (h.past_blanks hb).left.readWord (q := q) (w := "null") (by decide) rfl
        exact hw.map (fun _ _ good => good) fun _ => rfl
      · exact (h.past_blanks hb).unexpected hd _

theorem commits_size : Reader.size.Commits where
  waits := ⟨.value, rfl⟩
  read {d cs} q hd h := by
    have hn : CommitsAnyhow q (followed q) (readAnyNumber "u64" cs)
        (readAnyNumber "u64" (cs ++ q)) := by
      unfold readAnyNumber
      cases hb : Json.skipBlank cs with
      | nil => exact .unfinished
      | cons c rest =>
        have hready := h.past_blanks hb
        rw [skipBlank_followed hb]
        dsimp only
        split_ifs with hm hdigit
        · exact readNumber_commits ((hm ▸ hready).not_begins_negative hd) true
        · exact readNumber_commits (hready.not_begins_magnitude hd) false
        · exact hready.unexpected hd _
    have hsize : CommitsAnyhow q (followed q) (readSize cs) (readSize (cs ++ q)) := by
      unfold readSize
      generalize readAnyNumber "u64" cs = x at hn ⊢
      generalize readAnyNumber "u64" (cs ++ q) = y at hn ⊢
      cases hn with
      | @ok p =>
        obtain ⟨n, rest⟩ := p
        cases n with
        | whole => exact .ok trivial
        | negative => exact .content .same
        | float => exact .content .same
      | content places => exact .content places
      | form => exact .form
      | unfinished => exact .unfinished
    refine hsize.of_ok ?_
    rintro ⟨n, rest⟩ hr
    obtain ⟨text, hb, hw, -⟩ := accepts_size.spelled hr
    have hleft : Left d (text ++ rest) := h.left.past_blanks hb
    exact hleft.lexeme (.number (.positive ⟨text, [], [], hw, .missing, .missing, by simp⟩))

theorem Commits.map (h : r.Commits) (f : α → β) : (r.map f).Commits where
  waits := by
    obtain ⟨what, he⟩ := h.waits
    exact ⟨what, by change readMapped f r [] = _; rw [readMapped, he]; rfl⟩
  read q hd hr := (h.read q hd hr).map (fun _ _ good => good) fun _ => rfl

theorem Commits.checked (h : r.Commits) (check : α → Except ModelError Unit) :
    (r.checked check).Commits where
  waits := by
    obtain ⟨what, he⟩ := h.waits
    exact ⟨what, by change readChecked check r [] = _; rw [readChecked, he]⟩
  read {d cs} q hd hr := by
    change Json.Commits _ _ _ (readChecked check r cs) (readChecked check r (cs ++ q))
    refine (h.read q hd hr).read_then fun a rest _ good => ?_
    split
    · exact .content .same
    · exact .ok good

theorem readOptional_cons {cs rest : List Char} {c : Char} (hb : skipBlank cs = c :: rest) :
    readOptional r cs =
      if c = 'n' then (readWord "ull".toList rest).map fun rest => (none, rest)
      else (r.read (c :: rest)).map fun p => (some p.1, p.2) := by
  unfold readOptional
  rw [hb]
  split
  · rename_i heq
    cases heq
    rfl
  · rename_i hn
    rw [if_neg]
    rintro rfl
    exact hn _ rfl

theorem Commits.optional (h : r.Commits) : r.optional.Commits where
  waits := by
    obtain ⟨what, he⟩ := h.waits
    exact ⟨what, congrArg (Except.map _) he⟩
  read {d cs} q hd hr := by
    change Json.Commits _ _ _ (readOptional r cs) (readOptional r (cs ++ q))
    cases hb : Json.skipBlank cs with
    | nil =>
      obtain ⟨what, he⟩ := h.waits
      unfold readOptional
      rw [hb]
      dsimp only
      rw [he]
      exact .unfinished
    | cons c rest =>
      have hready := hr.past_blanks hb
      rw [readOptional_cons hb, readOptional_cons (skipBlank_followed hb q)]
      split_ifs with hn
      · have hw := (hn ▸ hready).left.readWord (q := q) (w := "null") (by decide) rfl
        exact hw.map (fun _ _ good => good) fun _ => rfl
      · exact (h.read q hd hready).map (fun _ _ good => good) fun _ => rfl

end Reader

/-! ## Lists -/

theorem skipBlank_eq_nil_iff : skipBlank cs = [] ↔ Blanks cs := List.dropWhile_eq_nil_iff

/-- Blanks are passed over to the same place, or to the end of the text and on through `q`. -/
theorem skipBlank_follows (cs : List Char) :
    Place.Follows q ⟨true, skipBlank cs⟩ ⟨true, skipBlank (cs ++ q)⟩ := by
  cases hb : skipBlank cs with
  | nil =>
    obtain ⟨blanks, hblanks, hq⟩ := blanks_append_skipBlank q
    rw [skipBlank_append (skipBlank_eq_nil_iff.1 hb)]
    exact .closed (Closing.nil.append hblanks) (by rw [List.append_nil, ← hq])
  | cons c rest =>
    rw [skipBlank_followed hb]
    exact .same

/-- Where a bracket is left there was nothing but what is passed over. -/
theorem Bracket.exists_closing (b : Bracket) (cs : List Char) :
    ∃ closing, Closing closing ∧ cs = closing ++ b.leave cs := by
  obtain ⟨blanks, hblanks, hcs⟩ := blanks_append_skipBlank cs
  suffices behind : ∃ closing, Closing closing ∧ skipBlank cs = closing ++ b.leave cs by
    obtain ⟨closing, hclosing, hrest⟩ := behind
    exact ⟨blanks ++ closing, hclosing.append hblanks, by rw [List.append_assoc, ← hrest, ← hcs]⟩
  unfold Bracket.leave
  cases skipBlank cs with
  | nil => exact ⟨[], .nil, rfl⟩
  | cons c rest =>
    dsimp only
    split_ifs with hend hcomma
    · have hbracket : c ∈ [']', '\x7d'] := by cases b <;> simp [hend, Bracket.close]
      exact ⟨[c], .bracket hbracket, rfl⟩
    · obtain ⟨blanks', hblanks', hrest⟩ := blanks_append_skipBlank rest
      exact ⟨',' :: blanks', .comma hblanks', by rw [List.cons_append, ← hrest, hcomma.1]⟩
    · exact ⟨[], .nil, rfl⟩

theorem Bracket.leaves (b : Bracket) : Leaves q b.leave := by
  intro left
  cases hb : skipBlank left with
  | nil =>
    obtain ⟨closing, hclosing, hq⟩ := b.exists_closing q
    have hend : b.leave left = [] := by rw [Bracket.leave, hb]
    have hlonger : b.leave (left ++ q) = b.leave q := by
      rw [Bracket.leave, Bracket.leave, skipBlank_append (skipBlank_eq_nil_iff.1 hb)]
    rw [hend, hlonger]
    exact .closed hclosing hq
  | cons c rest =>
    rw [Bracket.leave, Bracket.leave, hb, skipBlank_followed hb]
    dsimp only
    split_ifs
    · exact .same
    · exact skipBlank_follows rest
    · exact .same

theorem nextElement_commits {first : Bool} (h : Left d cs) (hr : first = true → Ready d cs) :
    Commits q (fun next => ∀ r ∈ next, Ready d r) (Option.map (· ++ q)) (nextElement first cs)
      (nextElement first (cs ++ q)) := by
  unfold nextElement
  cases hb : skipBlank cs with
  | nil => exact .unfinished
  | cons c rest =>
    rw [skipBlank_followed hb]
    dsimp only
    split_ifs with hend hfirst hcomma
    · exact .ok (by simp)
    · exact .ok (a := some (c :: rest)) (by simpa using (hr hfirst).past_blanks hb)
    · cases hb' : skipBlank rest with
      | nil => exact .unfinished
      | cons c' rest' =>
        rw [skipBlank_followed hb']
        dsimp only
        split_ifs
        · exact .form
        · have hready := ((h.past_blanks hb).mark (by simp [hcomma])).past_blanks hb'
          exact .ok (a := some (c' :: rest')) (by simpa using hready)
    · exact .form

theorem endList_commits (h : Left d cs) :
    Commits q (Left d) (· ++ q) (endList cs) (endList (cs ++ q)) := by
  unfold endList
  cases hb : skipBlank cs with
  | nil => exact .unfinished
  | cons c rest =>
    rw [skipBlank_followed hb]
    dsimp only
    split_ifs with hend hcomma
    · subst hend
      have hleft : Left d ([']'] ++ rest) := h.past_blanks hb
      exact .ok (hleft.lexeme (.mark (by decide)))
    · split <;> split <;> exact .form
    · exact .form

section Lists

variable {item : Reader α} {add : β → α → Except ModelError β}

/-- One element at a time. -/
theorem readElements_eq (first : Bool) (value : β) (cs : List Char) :
    readElements item add first value cs = (nextElement first cs).bind fun next =>
      match next with
      | none => .ok (value, cs)
      | some cs' => (item.read cs').bind fun r =>
        match add value r.1 with
        | .error e => .error (.content (.refused e) ⟨false, r.2⟩)
        | .ok value => readElements item add false value r.2 := by
  rw [readElements]
  split
  · rename_i he
    simp only [he, Except.bind]
  · rename_i he
    simp only [he, Except.bind]
  · rename_i he
    split
    · rename_i hr
      simp only [he, hr, Except.bind]
    · rename_i a _ hr
      cases ha : add value a <;> simp only [he, hr, ha, Except.bind]

theorem readElements_commits (hd : ¬ EndsInNumber d) (hi : item.Commits) {first : Bool} {value : β}
    (h : Left d cs) (hr : first = true → Ready d cs) :
    Commits q (fun r => Left d r.2) (followed q) (readElements item add first value cs)
      (readElements item add first value (cs ++ q)) := by
  induction hn : cs.length using Nat.strong_induction_on generalizing first value cs with
  | _ n ih =>
    rw [readElements_eq, readElements_eq]
    refine (nextElement_commits h hr).bind fun next hnext good => ?_
    cases next with
    | none => exact .ok h
    | some cs' =>
      refine (hi.read q hd (good cs' rfl)).bind fun r hread hleft => ?_
      have hlt := Nat.lt_of_lt_of_le (item.shrinks hread) (length_of_nextElement hnext)
      dsimp only [followed]
      split
      · exact .content .same
      · exact ih _ (hn ▸ hlt) hleft (by simp) rfl

theorem Reader.Commits.list (hi : item.Commits) (expected : String) (start : β) :
    (Reader.list expected start add item).Commits where
  waits := ⟨.value, rfl⟩
  read {d cs} q hd h := by
    change Json.Commits _ _ _ (readList expected start add item cs)
      (readList expected start add item (cs ++ q))
    unfold readList
    cases hb : Json.skipBlank cs with
    | nil => exact .unfinished
    | cons c rest =>
      have hready := h.past_blanks hb
      rw [skipBlank_followed hb]
      dsimp only
      split_ifs with hc
      · have hopened := hready.left.mark (by simp [hc])
        refine (readElements_commits hd hi hopened.left fun _ => hopened).read_leaving
          Bracket.list.leaves ?_
        intro value rest _ hleft
        exact (endList_commits hleft).map (fun _ _ good => good) fun _ => rfl
      · exact hready.unexpected hd _

end Lists

/-! ## Structures -/

theorem nextMember_commits {first : Bool} (h : Left d cs) :
    Commits q (fun next => ∀ r ∈ next, Left d r.2) (Option.map (followed q)) (nextMember first cs)
      (nextMember first (cs ++ q)) := by
  have key : ∀ {rest}, Left d ('"' :: rest) →
      Commits q (fun next => ∀ r ∈ next, Left d r.2) (Option.map (followed q))
        ((readText [] rest).map some) ((readText [] (rest ++ q)).map some) :=
    fun hq => hq.readText.map (fun _ _ good => by simpa using good) fun _ => rfl
  unfold nextMember
  cases hb : skipBlank cs with
  | nil => exact .unfinished
  | cons c rest =>
    have hleft := h.past_blanks hb
    rw [skipBlank_followed hb]
    dsimp only
    split_ifs with hend hfirst hq hcomma
    · exact .ok (by simp)
    · exact key (hq ▸ hleft)
    · exact .form
    · cases hb' : skipBlank rest with
      | nil => exact .unfinished
      | cons c' rest' =>
        have hnext := ((hleft.mark (by simp [hcomma])).past_blanks hb').left
        rw [skipBlank_followed hb']
        dsimp only
        split_ifs with hq
        · exact key (hq ▸ hnext)
        · exact .form
        · exact .form
    · exact .form

theorem endObject_commits (h : Left d cs) :
    Commits q (Left d) (· ++ q) (endObject cs) (endObject (cs ++ q)) := by
  unfold endObject
  cases hb : skipBlank cs with
  | nil => exact .unfinished
  | cons c rest =>
    rw [skipBlank_followed hb]
    dsimp only
    split_ifs with hend hcomma
    · subst hend
      have hleft : Left d (['\x7d'] ++ rest) := h.past_blanks hb
      exact .ok (hleft.lexeme (.mark (by decide)))
    · exact .form
    · exact .form

namespace Layout

variable {layout : Layout α}

/-- One member at a time. -/
theorem readMembers_eq (first : Bool) (seen : List String) (value : α) (cs : List Char) :
    layout.readMembers first seen value cs = (nextMember first cs).bind fun next =>
      match next with
      | none =>
        match layout.missing? seen with
        | some name => .error (.content (.missingField name) ⟨false, cs⟩)
        | none => .ok (value, cs)
      | some (key, rest) =>
        match layout.fields.find? (·.name == key) with
        | none => (readColon rest).bind fun rest => (skipValue rest).bind fun rest =>
          layout.readMembers false seen value rest
        | some field =>
          if seen.contains key then .error (.content (.duplicateField key) ⟨false, rest⟩)
          else (readColon rest).bind fun rest => (field.reader.read rest).bind fun r =>
            layout.readMembers false (key :: seen) (r.1 value) r.2 := by
  rw [readMembers]
  split
  · rename_i he
    rw [he]
    rfl
  · rename_i he
    rw [he]
    rfl
  · rename_i key rest he
    split
    · rename_i hf
      split
      · rename_i hc
        simp only [he, hf, hc, Except.bind]
      · rename_i hc
        split
        · rename_i hs
          simp only [he, hf, hc, hs, Except.bind]
        · rename_i hs
          simp only [he, hf, hc, hs, Except.bind]
    · rename_i hf
      split_ifs with hseen
      · simp only [he, hf, hseen, Except.bind, if_true]
      · split
        · rename_i hc
          simp only [he, hf, hseen, hc, Except.bind, Bool.false_eq_true, if_false]
        · rename_i hc
          split
          · rename_i hr
            simp only [he, hf, hseen, hc, hr, Except.bind, Bool.false_eq_true, if_false]
          · rename_i hr
            simp only [he, hf, hseen, hc, hr, Except.bind, Bool.false_eq_true, if_false]

/-- Every field of the structure has a reader that commits. -/
def Commits (layout : Layout α) : Prop := ∀ field ∈ layout.fields, field.reader.Commits

theorem readMembers_commits (hd : ¬ EndsInNumber d) (hl : layout.Commits) {first : Bool}
    {seen : List String} {value : α} (h : Left d cs) :
    Json.Commits q (fun r => Left d r.2) (followed q) (layout.readMembers first seen value cs)
      (layout.readMembers first seen value (cs ++ q)) := by
  induction hn : cs.length using Nat.strong_induction_on generalizing first seen value cs with
  | _ n ih =>
    rw [readMembers_eq, readMembers_eq]
    refine (nextMember_commits h).bind fun next hnext good => ?_
    cases next with
    | none =>
      dsimp only [Option.map]
      split
      · exact .content .same
      · exact .ok h
    | some next =>
      obtain ⟨key, rest⟩ := next
      have h1 := length_of_nextMember hnext
      have hrest : Left d rest := good _ rfl
      dsimp only [Option.map, followed]
      split
      · refine hrest.readColon.bind fun rest' hc hready => ?_
        refine (hready.skipValue hd).bind fun rest'' hs hleft => ?_
        have h2 := length_of_readColon hc
        have h3 := length_of_skipValue hs
        exact ih _ (by omega) hleft rfl
      · rename_i field hf
        split_ifs
        · exact .content .same
        · refine hrest.readColon.bind fun rest' hc hready => ?_
          have hfield := hl field (List.mem_of_find?_eq_some hf)
          refine (hfield.read q hd hready).bind fun r hr hleft => ?_
          have h2 := length_of_readColon hc
          have h3 := field.reader.shrinks hr
          exact ih _ (by omega) hleft rfl

/-- One field at a time. -/
theorem readItems_cons (index : Nat) (value : α) (field : Field α) (fields : List (Field α))
    (cs : List Char) : layout.readItems index value (field :: fields) cs =
      (nextElement (index == 0) cs).bind fun next =>
        match next with
        | none =>
          if field.required then
            .error (.content (.invalidLength index layout.lengthTitle) ⟨false, cs⟩)
          else layout.readItems (index + 1) value fields cs
        | some cs => (field.reader.read cs).bind fun r =>
          layout.readItems (index + 1) (r.1 value) fields r.2 := by
  rw [readItems]
  cases nextElement (index == 0) cs with
  | error e => rfl
  | ok next =>
    cases next with
    | none => rfl
    | some cs =>
      dsimp only [Except.bind]
      cases field.reader.read cs <;> rfl

theorem readItems_commits (hd : ¬ EndsInNumber d) {index : Nat} {value : α}
    {fields : List (Field α)} (hf : ∀ field ∈ fields, field.reader.Commits) (h : Left d cs)
    (hr : index = 0 → Ready d cs) :
    Json.Commits q (fun r => Left d r.2) (followed q) (layout.readItems index value fields cs)
      (layout.readItems index value fields (cs ++ q)) := by
  induction fields generalizing index value cs with
  | nil => exact .ok h
  | cons field fields ih =>
    obtain ⟨hfield, hfields⟩ := List.forall_mem_cons.1 hf
    have hfirst : (index == 0) = true → Ready d cs := fun hi => hr (by simpa using hi)
    have hnext := nextElement_commits (q := q) h hfirst
    rw [readItems_cons, readItems_cons]
    refine hnext.bind fun next _ good => ?_
    cases next with
    | none =>
      dsimp only [Option.map]
      split_ifs
      · exact .content .same
      · exact ih hfields h (by simp)
    | some cs' =>
      exact (hfield.read q hd (good cs' rfl)).bind fun r _ hleft => ih hfields hleft (by simp)

/-- A structure commits when its fields do. -/
theorem Commits.reader (hl : layout.Commits) : layout.reader.Commits where
  waits := ⟨.value, rfl⟩
  read {d cs} q hd h := by
    change Json.Commits _ _ _ (layout.read cs) (layout.read (cs ++ q))
    unfold Layout.read
    cases hb : skipBlank cs with
    | nil => exact .unfinished
    | cons c rest =>
      have hready := h.past_blanks hb
      rw [skipBlank_followed hb]
      dsimp only
      split_ifs with hlist hobject
      · have hopened := hready.left.mark (by simp [hlist])
        refine (readItems_commits hd hl hopened.left fun _ => hopened).read_leaving
          Bracket.list.leaves ?_
        intro value rest _ hleft
        exact (endList_commits hleft).map (fun _ _ good => good) fun _ => rfl
      · have hopened := hready.left.mark (by simp [hobject])
        refine (readMembers_commits hd hl hopened.left).read_leaving
          Bracket.object.leaves ?_
        intro value rest _ hleft
        exact (endObject_commits hleft).map (fun _ _ good => good) fun _ => rfl
      · exact hready.unexpected hd _

end Layout

/-! ## Alternatives -/

theorem endChoice_commits (h : Left d cs) :
    Commits q (Left d) (· ++ q) (endChoice cs) (endChoice (cs ++ q)) := by
  unfold endChoice
  cases hb : skipBlank cs with
  | nil => exact .unfinished
  | cons c rest =>
    rw [skipBlank_followed hb]
    dsimp only
    split_ifs with hend
    · subst hend
      have hleft : Left d (['\x7d'] ++ rest) := h.past_blanks hb
      exact .ok (hleft.lexeme (.mark (by decide)))
    · exact .form

section Choices

variable {naming : Naming} {choices : List (Choice α)}

/-- Whatever the name of an alternative is taken for, what stands in its place cannot become one. -/
theorem Ready.readNaming (hd : ¬ EndsInNumber d) (h : Ready d cs) :
    Commits q (fun r => Left d r.2) (followed q) (naming.read cs) (naming.read (cs ++ q)) := by
  cases naming with
  | key =>
    rw [Naming.read_key, Naming.read_key]
    refine (nextMember_commits h.left).bind fun next _ good => ?_
    cases next with
    | none => exact .form
    | some found => exact .ok (good found rfl)
  | identifier => exact h.readString hd _

theorem findChoice_commits (choices : List (Choice α)) (name : String) (left : List Char) :
    CommitsAnyhow q id (findChoice choices name left) (findChoice choices name (left ++ q)) := by
  unfold findChoice
  split
  · exact .ok trivial
  · exact .content .same

/-- Alternatives commit when the content of each does. -/
theorem Reader.commits_oneOf (hc : ∀ choice ∈ choices, choice.content.Commits) :
    (Reader.oneOf choices naming).Commits where
  waits := ⟨.value, rfl⟩
  read {d cs} q hd h := by
    change Json.Commits _ _ _ (readChoice naming choices cs) (readChoice naming choices (cs ++ q))
    unfold readChoice
    cases hb : Json.skipBlank cs with
    | nil => exact .unfinished
    | cons c rest =>
      have hleft := (h.past_blanks hb).left
      rw [skipBlank_followed hb]
      dsimp only
      split_ifs with hobject hname
      · have hopened := hleft.mark (by simp [hobject])
        rw [readChoiceObject_eq, readChoiceObject_eq]
        refine (hopened.readNaming hd).bind fun r _ hkey => ?_
        refine (findChoice_commits choices r.1 r.2).bind fun choice hchoice _ => ?_
        refine hkey.readColon.bind fun rest _ hready => ?_
        refine ((hc choice (findChoice_eq_ok hchoice).1).read q hd hready).bind fun r _ hr => ?_
        exact (endChoice_commits hr).map (fun _ _ good => good) fun _ => rfl
      · subst hname
        rw [readChoiceName_eq, readChoiceName_eq]
        refine hleft.readText.bind fun r _ hr => ?_
        refine (findChoice_commits choices r.1 r.2).bind fun choice _ _ => ?_
        dsimp only [id, followed]
        split
        · exact .ok hr
        · exact .content .same
      · exact .form

end Choices

/-! ## Whole documents -/

/-- How the positions that are reported for a text and for a longer one compare: they are the same,
or the text ends before what is around the problem is left and `q` begins with what is left to pass
over. -/
inductive Position.Follows (p q : List Char) : Option Position → Option Position → Prop
  | same {position : Option Position} : Follows p q position position
  | closed {closing rest : List Char} : Closing closing → q = closing ++ rest →
      Follows p q (some (.behind p)) (some (.behind (p ++ closing)))

theorem Place.Follows.position {place place' : Place} (h : place.Follows q place') (p : List Char)
    (e : ContentProblem) : Position.Follows p q ((Failure.content e place).position? p)
      ((Failure.content e place').position? (p ++ q)) := by
  cases h with
  | @same settled left =>
    cases settled with
    | false => exact .same
    | true =>
      have hread : (p ++ q).take ((p ++ q).length - (left ++ q).length) =
          p.take (p.length - left.length) := by
        rw [List.length_append, List.length_append, Nat.add_sub_add_right,
          List.take_append_of_le_length (Nat.sub_le _ _)]
      rw [Failure.position?, Failure.position?, hread]
      exact .same
  | @closed closing rest hclosing hq =>
    have hread : (p ++ q).take ((p ++ q).length - rest.length) = p ++ closing := by
      have hlength : (p ++ closing ++ rest).length - rest.length = (p ++ closing).length := by
        rw [List.length_append]
        exact Nat.add_sub_cancel ..
      rw [hq, ← List.append_assoc, hlength, List.take_left]
    rw [Failure.position?, Failure.position?, hread, List.length_nil, Nat.sub_zero,
      List.take_length]
    exact .closed hclosing hq

/-- The position stays where it is when something else follows the text. -/
theorem Position.Follows.eq {p : List Char} {x y : Option Position} (h : Follows p q x y)
    (hq : ∀ c ∈ q.head?, isBlank c = false ∧ c ∉ [']', '\x7d', ',']) : y = x := by
  cases h with
  | same => rfl
  | @closed closing rest hclosing hsplit =>
    cases closing with
    | nil => rw [List.append_nil]
    | cons c closing =>
      have hc := hq c (by rw [hsplit]; rfl)
      rcases hclosing.head with hblank | hmark
      · rw [hblank] at hc
        cases hc.1
      · exact absurd hmark hc.2

/-- What is read from a text that does not end in a number, and from a longer one. -/
theorem Reader.Commits.readAll {r : Reader α} (h : r.Commits) {p q : List Char}
    (hp : ¬ EndsInNumber p) :
    (∀ e place, r.readAll p = .error (.content e place) →
        ∃ place', r.readAll (p ++ q) = .error (.content e place') ∧ place.Follows q place') ∧
      (∀ e, r.readAll p = .error (.form e) → ∃ e', r.readAll (p ++ q) = .error (.form e')) ∧
      ∀ a, r.readAll p = .ok a → (Blanks q → r.readAll (p ++ q) = .ok a) ∧
        (¬ Blanks q → r.readAll (p ++ q) = .error (.form .trailingCharacters)) := by
  have hr := h.read q hp (ready_self p)
  unfold Reader.readAll
  generalize r.read p = x at hr ⊢
  generalize r.read (p ++ q) = y at hr ⊢
  cases hr with
  | @ok result _ =>
    obtain ⟨a, rest⟩ := result
    dsimp only [followed]
    cases hb : skipBlank rest with
    | nil =>
      have hrest := skipBlank_eq_nil_iff.1 hb
      refine ⟨by simp, by simp, fun a' ha => ?_⟩
      cases ha
      rw [skipBlank_append hrest]
      refine ⟨fun hq => ?_, fun hq => ?_⟩
      · rw [skipBlank_eq_nil_iff.2 hq]
      · obtain ⟨c, q', hc⟩ := List.exists_cons_of_ne_nil fun he => hq (skipBlank_eq_nil_iff.1 he)
        rw [hc]
    | cons c rest' =>
      rw [skipBlank_followed hb]
      exact ⟨by simp, fun _ _ => ⟨_, rfl⟩, by simp⟩
  | content places =>
    refine ⟨fun _ _ he => ?_, by simp, by simp⟩
    cases he
    exact ⟨_, rfl, places⟩
  | form => exact ⟨by simp, fun _ _ => ⟨_, rfl⟩, by simp⟩
  | unfinished => exact ⟨by simp, by simp, by simp⟩

section Loading

variable {r : Reader α} {document : String}

/-- A problem with the content is met at some place. -/
theorem Reader.load_eq_content_iff {e : ContentProblem} :
    r.load document = .error (.content e) ↔
      ∃ place, r.readAll document.toList = .error (.content e place) := by
  rw [Reader.load, Except.mapError_eq_error_iff]
  constructor
  · rintro ⟨failure, hf, hproblem⟩
    cases failure with
    | content e' place =>
      cases hproblem
      exact ⟨place, hf⟩
    | form => cases hproblem
    | unfinished => cases hproblem
  · rintro ⟨place, hf⟩
    exact ⟨.content e place, hf, rfl⟩

theorem Reader.load_eq_form_iff {e : FormProblem} :
    r.load document = .error (.form e) ↔ r.readAll document.toList = .error (.form e) := by
  rw [Reader.load, Except.mapError_eq_error_iff]
  constructor
  · rintro ⟨failure, hf, hproblem⟩
    cases failure with
    | content => cases hproblem
    | form =>
      cases hproblem
      exact hf
    | unfinished => cases hproblem
  · intro hf
    exact ⟨.form e, hf, rfl⟩

/-- What is loaded from a text that does not end in a number, and from a longer one. -/
theorem Reader.Commits.load (h : r.Commits) {p q : String} (hp : ¬ EndsInNumber p.toList) :
    (∀ e, r.load p = .error (.content e) → r.load (p ++ q) = .error (.content e)) ∧
      (∀ e, r.load p = .error (.form e) → ∃ e', r.load (p ++ q) = .error (.form e')) ∧
      (∀ a, r.load p = .ok a → (Blanks q.toList → r.load (p ++ q) = .ok a) ∧
        (¬ Blanks q.toList → r.load (p ++ q) = .error (.form .trailingCharacters))) ∧
      ∀ e, r.load p = .error (.content e) →
        Position.Follows p.toList q.toList (r.position? p) (r.position? (p ++ q)) := by
  obtain ⟨content, form, value⟩ := h.readAll (q := q.toList) hp
  rw [← String.toList_append] at content form value
  refine ⟨fun e he => ?_, fun e he => ?_, fun a ha => ?_, fun e he => ?_⟩
  · obtain ⟨place, hread⟩ := load_eq_content_iff.1 he
    obtain ⟨place', hlonger, -⟩ := content e place hread
    exact load_eq_content_iff.2 ⟨place', hlonger⟩
  · obtain ⟨e', hlonger⟩ := form e (load_eq_form_iff.1 he)
    exact ⟨e', load_eq_form_iff.2 hlonger⟩
  · obtain ⟨blank, trailing⟩ := value a (Except.mapError_eq_ok_iff.1 ha)
    exact ⟨fun hq => Except.mapError_eq_ok_iff.2 (blank hq),
      fun hq => load_eq_form_iff.2 (trailing hq)⟩
  · obtain ⟨place, hread⟩ := load_eq_content_iff.1 he
    obtain ⟨place', hlonger, places⟩ := content e place hread
    rw [Reader.position?, Reader.position?, hread, hlonger, String.toList_append]
    exact places.position p.toList e

end Loading

end Json

open Json

/-! ## Descriptions -/

section Descriptions

variable (naming : Naming)

theorem BaseType.commits : (BaseType.reader naming).Commits := by
  refine Reader.commits_oneOf fun choice hc => ?_
  obtain ⟨t, -, rfl⟩ := List.mem_map.1 hc
  exact Reader.commits_null.map _

theorem Extent.commits : (Extent.reader naming).Commits := by
  refine Reader.commits_oneOf ?_
  simp only [Extent.choices, List.forall_mem_cons, List.not_mem_nil, IsEmpty.forall_iff,
    implies_true, and_true]
  exact ⟨Reader.commits_null.map _, Reader.commits_size.map _⟩

theorem Dimension.commits : (Dimension.reader naming).Commits := by
  refine Layout.Commits.reader ?_
  simp only [Layout.Commits, Dimension.layout, List.forall_mem_cons, List.not_mem_nil,
    IsEmpty.forall_iff, implies_true, and_true]
  exact (Extent.commits naming).map _

theorem Variable.commits : (Variable.reader naming).Commits := by
  refine Layout.Commits.reader ?_
  simp only [Layout.Commits, Variable.layout, List.forall_mem_cons, List.not_mem_nil,
    IsEmpty.forall_iff, implies_true, and_true]
  exact ⟨Reader.commits_string.map _, (BaseType.commits naming).map _,
    (((Dimension.commits naming).list _ _).map _).map _⟩

theorem NamedList.commits {α : Type} [Named α] {item : Reader α} (h : item.Commits) :
    (NamedList.reader item).Commits :=
  h.list _ _

theorem Block.commits : (Block.reader naming).Commits :=
  NamedList.commits (Variable.commits naming)

theorem Function.commits : (Function.reader naming).Commits := by
  refine Layout.Commits.reader ?_
  simp only [Layout.Commits, Function.layout, List.forall_mem_cons, List.not_mem_nil,
    IsEmpty.forall_iff, implies_true, and_true]
  exact ⟨Reader.commits_string.map _, (Block.commits naming).map _,
    (BaseType.commits naming).optional.map _⟩

theorem Algorithm.commits : (Algorithm.reader naming).Commits := by
  have functions := NamedList.commits (Function.commits naming)
  refine Layout.Commits.reader ?_
  simp only [Layout.Commits, Algorithm.layout, List.forall_mem_cons, List.not_mem_nil,
    IsEmpty.forall_iff, implies_true, and_true]
  exact ⟨Reader.commits_string.map _, (Block.commits naming).map _, functions.map _,
    functions.map _⟩

theorem Interface.commits : (Interface.reader naming).Commits := by
  have algorithms := NamedList.commits (Algorithm.commits naming)
  refine Layout.Commits.reader ?_
  simp only [Layout.Commits, Interface.layout, List.forall_mem_cons, List.not_mem_nil,
    IsEmpty.forall_iff, implies_true, and_true]
  exact ⟨(Reader.commits_string.checked _).map _, algorithms.map _⟩

theorem Shape.commits (shape : Shape) : (shape.reader naming).Commits := by
  cases shape with
  | baseType => exact (BaseType.commits naming).map _
  | extent => exact (Extent.commits naming).map _
  | dimension => exact (Dimension.commits naming).map _
  | «variable» => exact (Variable.commits naming).map _
  | block => exact (Block.commits naming).map _
  | function => exact (Function.commits naming).map _
  | algorithm => exact (Algorithm.commits naming).map _
  | interface => exact (Interface.commits naming).map _
  | variableList => exact (NamedList.commits (Variable.commits naming)).map _
  | functionList => exact (NamedList.commits (Function.commits naming)).map _
  | algorithmList => exact (NamedList.commits (Algorithm.commits naming)).map _

end Descriptions

/-- A variable that its list refuses is reported behind the end of the list as soon as there is one,
and until then behind the variable: the problem is the same, but not its column. -/
theorem Value.position?_append_refused :
    load .variableList "[\x7b\"name\":\"\",\"base_type\":\"int\"\x7d" =
        .error (.content (.refused (.emptyName "variable"))) ∧
      position? .variableList "[\x7b\"name\":\"\",\"base_type\":\"int\"\x7d" = some ⟨1, 30⟩ ∧
      load .variableList "[\x7b\"name\":\"\",\"base_type\":\"int\"\x7d ]" =
        .error (.content (.refused (.emptyName "variable"))) ∧
      position? .variableList "[\x7b\"name\":\"\",\"base_type\":\"int\"\x7d ]" = some ⟨1, 32⟩ := by
  decide +kernel

/-- What stands in the place of the name of an alternative is refused in two ways, but only a string
is accepted. -/
example : Value.load .baseType "\x7b1:null\x7d" = .error (.form .keyMustBeString) ∧
    Value.load .baseType "\x7b1:null\x7d" .identifier =
      .error (.content (.invalidType (.integer 1) "variant identifier")) := by
  decide +kernel

/-- A text that ends in a number can be mended: the exponent is still to come. -/
example : Value.load .dimension "\x7b\"x\":1e" = .error (.form .invalidNumber) ∧
    Value.load .dimension ("\x7b\"x\":1e" ++ "5\x7d") = .ok (.dimension {}) := by
  decide +kernel

end AlgorithmDriver
