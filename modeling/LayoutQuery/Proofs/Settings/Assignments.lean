import LayoutQuery.Proofs.Except
import LayoutQuery.Proofs.Fields
import LayoutQuery.Settings.Dotenv
import Mathlib.Data.List.Infix

/-! # Names in a file of variables
The readers of a file drop characters from its front and nothing else, so a name that is assigned
stands in the text, and a variable that is settled was assigned in one of the lines. -/
namespace LayoutQuery.Dotenv

variable {α β : Type} {P : α → Prop} {Q : β → Prop} {cs cs' rest : List Char}

/-! ## Readers -/

/-- What a reader finds has the property `P`. What it leaves is an end of what it was given, and so
is the part that it finds wrong. -/
inductive Within (P : α → Prop) (cs : List Char) : Reading α → Prop where
  | ok {a : α} {rest : List Char} : P a → rest <:+ cs → Within P cs (.ok (a, rest))
  | error {wrong : List Char} : wrong <:+ cs → Within P cs (.error wrong)

theorem Within.trans {x : Reading α} (h : Within P cs x) (hcs : cs <:+ cs') : Within P cs' x := by
  cases h with
  | ok ha hrest => exact .ok ha (hrest.trans hcs)
  | error hwrong => exact .error (hwrong.trans hcs)

theorem Within.bind {x : Reading α} {f : α × List Char → Reading β} (hx : Within P cs x)
    (hf : ∀ a rest, P a → Within Q rest (f (a, rest))) : Within Q cs (Except.bind x f) := by
  cases hx with
  | ok ha hrest => exact (hf _ _ ha).trans hrest
  | error hwrong => exact .error hwrong

theorem skipLineBlanks_suffix (cs : List Char) : skipLineBlanks cs <:+ cs :=
  List.dropWhile_suffix _

theorem suffix_of_skipLineBlanks {c : Char} (h : skipLineBlanks cs = c :: rest) : rest <:+ cs := by
  have hrest : rest <:+ skipLineBlanks cs := h ▸ List.suffix_cons c rest
  exact hrest.trans (skipLineBlanks_suffix cs)

theorem skipLine_suffix (cs : List Char) : skipLine cs <:+ cs := List.dropWhile_suffix _

theorem after?_suffix {word : List Char} (h : Text.after? word cs = some rest) : rest <:+ cs := by
  fun_induction Text.after? word cs with
  | case1 cs =>
    cases h
    exact List.suffix_rfl
  | case2 w word => cases h
  | case3 w word cs ih => exact (ih h).trans (List.suffix_cons _ _)
  | case4 w word c cs hne => cases h

theorem skipExport_suffix (cs : List Char) : skipExport cs <:+ cs := by
  fun_cases skipExport cs with
  | case1 rest hrest _ => exact (skipLineBlanks_suffix rest).trans (after?_suffix hrest)
  | case2 rest hrest _ => exact List.suffix_rfl
  | case3 hnone => exact List.suffix_rfl

theorem readQuoted_suffix {mark : Char} {s : List Char} (h : readQuoted mark cs = some (s, rest)) :
    rest <:+ cs := by
  fun_induction readQuoted mark cs generalizing s rest with
  | case1 => cases h
  | case2 c cs ih =>
    obtain ⟨r, hr, heq⟩ := Option.map_eq_some_iff.mp h
    cases heq
    exact (ih hr).trans ((List.suffix_cons c cs).trans (List.suffix_cons _ _))
  | case3 cs hescape =>
    cases h
    exact List.suffix_cons _ _
  | case4 cs hmark hescape => cases h
  | case5 c cs hescape hmark hother ih =>
    obtain ⟨r, hr, heq⟩ := Option.map_eq_some_iff.mp h
    cases heq
    exact (ih hr).trans (List.suffix_cons c cs)

theorem within_readName (cs : List Char) :
    Within (fun found => ∀ name ∈ found, name <:+: cs) cs (readName cs) := by
  fun_cases readName cs with
  | case1 comment => exact .ok (by simp) List.suffix_rfl
  | case2 more c name mark rest hrest hname =>
    have hstands : c :: name <:+: '\'' :: more := by
      rw [← hname]
      exact (List.takeWhile_prefix _).isInfix.trans (List.suffix_cons _ _).isInfix
    have hsuffix : mark :: rest <:+ more := hrest ▸ List.dropWhile_suffix _
    refine .ok (by simpa using hstands) ?_
    exact (List.suffix_cons mark rest).trans (hsuffix.trans (List.suffix_cons _ more))
  | case3 more _ => exact .error List.suffix_rfl
  | case4 cs inName hnil _ _ =>
    rw [hnil]
    exact .error List.suffix_rfl
  | case5 cs inName _ _ hne =>
    split
    next hnil => exact absurd hnil hne
    next =>
      refine .ok ?_ (List.dropWhile_suffix _)
      simpa using (List.takeWhile_prefix inName).isInfix

theorem within_readValue (cs : List Char) : Within (fun _ => True) cs (readValue cs) := by
  fun_cases readValue cs with
  | case1 more hopen s rest hquoted =>
    exact .ok trivial ((readQuoted_suffix hquoted).trans (suffix_of_skipLineBlanks hopen))
  | case2 more hopen _ => exact .error (skipLineBlanks_suffix cs)
  | case3 more hopen s rest hquoted =>
    exact .ok trivial ((readQuoted_suffix hquoted).trans (suffix_of_skipLineBlanks hopen))
  | case4 more hopen _ => exact .error (skipLineBlanks_suffix cs)
  | case5 => exact .ok trivial (skipLine_suffix cs)

theorem within_readLineEnd (cs : List Char) : Within (fun _ => True) cs (readLineEnd cs) := by
  unfold readLineEnd
  extract_lets rest
  have hcomment : rest <:+ cs := by
    unfold rest
    split
    next more hsign => exact (skipLine_suffix more).trans (suffix_of_skipLineBlanks hsign)
    next => exact List.suffix_rfl
  split
  next => exact .ok trivial List.nil_suffix
  next more hreturn =>
    have hmore : '\n' :: more <:+ rest := suffix_of_skipLineBlanks hreturn
    exact .ok trivial ((List.suffix_cons _ _).trans (hmore.trans hcomment))
  next c more _ hend =>
    split
    next => exact .ok trivial ((suffix_of_skipLineBlanks hend).trans hcomment)
    next => exact .error hcomment

theorem within_readAssignment (cs : List Char) :
    Within (fun found => ∀ a ∈ found, a.1.toList <:+: cs) cs (readAssignment cs) := by
  have hname := (within_readName (skipExport cs)).trans (skipExport_suffix cs)
  refine hname.bind ?_
  intro name rest hstands
  have hend : ∀ (value : Option String) rest,
      Within (fun found => ∀ a ∈ found, a.1.toList <:+: cs) rest
        (Except.bind (readLineEnd rest) fun r =>
          .ok (name.map fun name => (String.ofList name, value), r.2)) := by
    intro value rest
    refine (within_readLineEnd rest).bind ?_
    intro u rest _
    refine .ok ?_ List.suffix_rfl
    intro a ha
    obtain ⟨n, hn, rfl⟩ := Option.map_eq_some_iff.mp ha
    rw [String.toList_ofList]
    exact (hstands n hn).trans (skipExport_suffix cs).isInfix
  dsimp only
  split
  next more hvalue =>
    refine Within.trans ?_ (suffix_of_skipLineBlanks hvalue)
    refine (within_readValue more).bind ?_
    intro value rest _
    exact hend _ _
  next => exact (hend _ _).trans (skipLineBlanks_suffix rest)

/-! ## The assignments of a text -/

theorem name_infix_of_mem {fuel : Nat} {a : String × Option String}
    (h : a ∈ readAssignments fuel cs) : a.1.toList <:+: cs := by
  induction fuel generalizing cs with
  | zero => cases h
  | succ fuel ih =>
    have hfirst : cs.dropWhile Text.isBlank <:+ cs := List.dropWhile_suffix _
    rw [readAssignments] at h
    split at h
    next => cases h
    next =>
      have hwithin := (within_readAssignment (cs.dropWhile Text.isBlank)).trans hfirst
      split at h
      next found rest heq =>
        rw [heq] at hwithin
        cases hwithin with
        | ok hfound hrest =>
          rcases List.mem_append.mp h with ha | ha
          · exact (hfound a (Option.mem_toList.mp ha)).trans hfirst.isInfix
          · exact (ih ha).trans hrest.isInfix
      next wrong heq =>
        rw [heq] at hwithin
        cases hwithin with
        | error hwrong =>
          have hline : (skipLine wrong).drop 1 <:+ cs :=
            (List.drop_suffix _ _).trans ((skipLine_suffix wrong).trans hwrong)
          exact (ih h).trans hline.isInfix

/-- The assignments of a text, line by line. -/
def assignments (text : List Char) : List (String × Option String) :=
  readAssignments (text.length + 1) (withoutMark text)

theorem withoutMark_suffix (cs : List Char) : withoutMark cs <:+ cs := by
  fun_cases withoutMark cs with
  | case1 cs => exact List.suffix_cons _ cs
  | case2 => exact List.suffix_rfl

/-- The name of an assignment stands in the text. -/
theorem infix_of_mem_assignments {text : List Char} {a : String × Option String}
    (h : a ∈ assignments text) : a.1.toList <:+: text :=
  (name_infix_of_mem h).trans (withoutMark_suffix text).isInfix

/-! ## What is settled -/

variable {name value : String}

/-- Whatever is made of the values, an assignment replaces what was settled under its own name and
keeps the rest. -/
theorem mem_settled_cases {made : Fields (Option String) → String → String}
    {given : List (String × Option String)} {done : Fields (Option String)}
    (h : (name, some value) ∈
      given.foldl (fun done a => Fields.put a.1 (a.2.map (made done)) done) done) :
    (name, some value) ∈ done ∨ ∃ written, (name, some written) ∈ given := by
  induction given generalizing done with
  | nil => exact .inl h
  | cons a given ih =>
    rcases ih h with hput | ⟨written, hwritten⟩
    · rcases Fields.mem_put hput with ⟨rfl, hvalue⟩ | hdone
      · obtain ⟨written, hwritten, -⟩ := Option.map_eq_some_iff.mp hvalue.symm
        exact .inr ⟨written, List.mem_cons.mpr (.inl (Prod.ext rfl hwritten.symm))⟩
      · exact .inl hdone
    · exact .inr ⟨written, List.mem_cons_of_mem a hwritten⟩

/-- A variable has a value only if one of its assignments gives it one. -/
theorem exists_of_mem_settled {environment : Fields String} {text : List Char}
    (h : (name, some value) ∈ settled environment text) :
    ∃ written, (name, some written) ∈ assignments text :=
  (mem_settled_cases h).resolve_left List.not_mem_nil

end LayoutQuery.Dotenv
