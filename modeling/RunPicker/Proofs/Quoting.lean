import RunPicker.Proofs.RunVariables
import RunPicker.Proofs.Verdict
import RunPicker.Spec

/-!
# Quoting

A text is quoted by writing its dollar signs twice (`Text.escape`). The specification of a filter that is written from
quoted texts means these texts, whatever stands in them: `quoted_specifications` says that the filter on parameters asks
for exactly the pairs it was written from, and the filter on a display name for exactly that name. A specification is
read in four layers, each of which has its section: the references are expanded, the text is cut at its commas and
equals signs, the kind is cut off and the blanks at the end are dropped, and the variables of the run are looked up.
-/

namespace RunPicker

namespace Text

/-- The characters with every dollar sign written twice. -/
def escapeChars (cs : List Char) : List Char :=
  cs.flatMap fun c => if c = '$' then ['$', '$'] else [c]

/-- The text with every dollar sign written twice. -/
def escape (text : String) : String :=
  String.ofList (escapeChars text.toList)

/-- The characters do not end in a blank. -/
def EndsUnblank (cs : List Char) : Prop :=
  ∀ c ∈ cs.getLast?, isBlank c = false

instance (cs : List Char) : Decidable (EndsUnblank cs) :=
  decidable_of_iff (cs.getLast?.all fun c => isBlank c == false) (by simp [EndsUnblank, Option.all_eq_true])

end Text

/-- A pair of a name and a value as it is wanted of a run, in quoted texts. -/
def quotedPair (pair : String × String) : String :=
  Text.escape pair.1 ++ "=" ++ Text.escape pair.2

/-- The specification of the filter that wants some parameters. -/
def parametersSpec (pairs : List (String × String)) : String :=
  "parameters" ++ ":" ++ ",".intercalate (pairs.map quotedPair)

/-- The specification of the filter that wants a display name. -/
def displayNameSpec (name : String) : String :=
  "display-name" ++ ":" ++ Text.escape name

/-- Pairs of names and values that can be told apart in a row: an equals sign ends a name and a comma a value, a name
stands on one line, and the blanks at the end of the row are dropped. -/
structure Listable (pairs : List (String × String)) : Prop where
  names : ∀ pair ∈ pairs, '=' ∉ pair.1.toList ∧ '\n' ∉ pair.1.toList
  values : ∀ pair ∈ pairs, ',' ∉ pair.2.toList
  ending : ∀ pair ∈ pairs.getLast?, Text.EndsUnblank pair.2.toList

namespace QuotingAux

/-! ## References -/

/-- Texts are escaped piece by piece. -/
theorem escapeChars_append (front back : List Char) :
    Text.escapeChars (front ++ back) = Text.escapeChars front ++ Text.escapeChars back :=
  List.flatMap_append

/-- What is no dollar sign is not escaped. -/
theorem escapeChars_cons_of_ne {c : Char} (h : c ≠ '$') (cs : List Char) :
    Text.escapeChars (c :: cs) = c :: Text.escapeChars cs := by
  rw [Text.escapeChars, List.flatMap_cons, if_neg h]
  rfl

/-- Nothing is expanded to nothing. -/
theorem expandChars_nil (vars : Environment) : vars.expandChars [] = [] := by
  rw [Environment.expandChars, pieces]
  rfl

/-- The piece at the front of a text stands for its value, and the text goes on behind it. -/
theorem expandChars_cons (vars : Environment) (c : Char) (cs : List Char) :
    vars.expandChars (c :: cs) = vars.valueOf (firstPiece c cs) ++
      vars.expandChars (cs.drop ((firstPiece c cs).source.length - 1)) := by
  rw [Environment.expandChars, pieces, List.flatMap_cons]
  rfl

/-- What is no dollar sign is not expanded. -/
theorem expandChars_cons_of_ne {c : Char} (h : c ≠ '$') (vars : Environment) (cs : List Char) :
    vars.expandChars (c :: cs) = c :: vars.expandChars cs := by
  have hpiece : firstPiece c cs = .plain c := by simp [firstPiece, h]
  rw [expandChars_cons, hpiece]
  rfl

/-- Two dollar signs stand for one. -/
theorem expandChars_dollars (vars : Environment) (cs : List Char) :
    vars.expandChars ('$' :: '$' :: cs) = '$' :: vars.expandChars cs := by
  have hpiece : firstPiece '$' ('$' :: cs) = .dollar := rfl
  rw [expandChars_cons, hpiece]
  rfl

/-- A quoted text stands for the text itself, whatever variables there are and whatever comes behind it. -/
theorem expandChars_escapeChars_append (vars : Environment) (cs back : List Char) :
    vars.expandChars (Text.escapeChars cs ++ back) = cs ++ vars.expandChars back := by
  induction cs with
  | nil => rfl
  | cons c cs ih =>
    by_cases hc : c = '$'
    · have hescaped : Text.escapeChars (c :: cs) = '$' :: '$' :: Text.escapeChars cs := by
        rw [Text.escapeChars, List.flatMap_cons, if_pos hc]
        rfl
      rw [hescaped, List.cons_append, List.cons_append, expandChars_dollars, ih, hc, List.cons_append]
    · rw [escapeChars_cons_of_ne hc, List.cons_append, expandChars_cons_of_ne hc, ih, List.cons_append]

/-- A quoted text is expanded to the text itself, whatever variables there are. -/
theorem expandChars_escapeChars (vars : Environment) (cs : List Char) :
    vars.expandChars (Text.escapeChars cs) = cs := by
  have happend := expandChars_escapeChars_append vars cs []
  rwa [List.append_nil, expandChars_nil, List.append_nil] at happend

/-- An escaped text is expanded to the text, whatever the variables. -/
theorem expand_escape (vars : Environment) (text : String) : vars.expand (Text.escape text) = text := by
  rw [Environment.expand, Text.escape, String.toList_ofList, expandChars_escapeChars, String.ofList_toList]

/-- A text without dollar signs is quoted as it is. -/
theorem escapeChars_eq_self {cs : List Char} (h : '$' ∉ cs) : Text.escapeChars cs = cs := by
  induction cs with
  | nil => rfl
  | cons c cs ih =>
    obtain ⟨hc, hcs⟩ := not_or.mp (mt List.mem_cons.mpr h)
    rw [escapeChars_cons_of_ne (Ne.symm hc), ih hcs]

/-- A text without dollar signs is expanded to itself. -/
theorem expand_eq_self (vars : Environment) {text : String} (h : '$' ∉ text.toList) : vars.expand text = text := by
  rw [Environment.expand, ← escapeChars_eq_self h, expandChars_escapeChars, String.ofList_toList]

/-! ## Rows of pairs -/

/-- A row of pairs with nothing quoted. -/
def rowChars : List (String × String) → List Char
  | [] => []
  | [pair] => pair.1.toList ++ '=' :: pair.2.toList
  | pair :: rest => pair.1.toList ++ '=' :: (pair.2.toList ++ ',' :: rowChars rest)

/-- A row of quoted pairs is the quoted row of the pairs. -/
theorem toList_quotedRow (pairs : List (String × String)) :
    (",".intercalate (pairs.map quotedPair)).toList = Text.escapeChars (rowChars pairs) := by
  have hpair (pair : String × String) :
      (quotedPair pair).toList = Text.escapeChars (pair.1.toList ++ '=' :: pair.2.toList) := by
    rw [escapeChars_append, escapeChars_cons_of_ne (by decide)]
    simp [quotedPair, Text.escape]
  induction pairs using rowChars.induct with
  | case1 => rfl
  | case2 pair =>
    rw [rowChars, ← hpair]
    simp
  | case3 pair rest hrest ih =>
    obtain ⟨next, others, rfl⟩ := List.exists_cons_of_ne_nil hrest
    rw [rowChars, ← List.cons_append, ← List.append_assoc, escapeChars_append, ← hpair,
      escapeChars_cons_of_ne (by decide), ← ih]
    · simp [String.toList_intercalate]
    · exact hrest

/-- The name at the front of a row is what stands before the first equals sign. -/
theorem wantedName?_append {front : List Char} (hequals : '=' ∉ front) (hline : '\n' ∉ front)
    (before back : List Char) :
    wantedName? before (front ++ '=' :: back) = some (before.reverse ++ front, back) := by
  induction front generalizing before with
  | nil => simp [wantedName?]
  | cons c front ih =>
    obtain ⟨hc, hequals⟩ := not_or.mp (mt List.mem_cons.mpr hequals)
    obtain ⟨hc', hline⟩ := not_or.mp (mt List.mem_cons.mpr hline)
    rw [List.cons_append, wantedName?, ih hequals hline]
    · simp
    · exact fun h => hc h.symm
    · exact fun h => hc' h.symm

/-- The value at the front of a row goes on up to the first comma. -/
theorem wantedValue_append {front : List Char} (h : ',' ∉ front) (back : List Char) :
    wantedValue (front ++ back) = (front ++ (wantedValue back).1, (wantedValue back).2) := by
  have hall : ∀ c ∈ front, (c != ',') = true := fun c hc => bne_iff_ne.mpr fun hcomma => h (hcomma ▸ hc)
  rw [wantedValue, List.takeWhile_append_of_pos hall, List.dropWhile_append_of_pos hall, wantedValue]

/-- A comma ends a value. -/
theorem wantedValue_comma (back : List Char) : wantedValue (',' :: back) = ([], back) := by
  simp [wantedValue]

/-- After a name and its value the reader goes on with the rest. -/
theorem wantedChars_of_name {cs name rest : List Char} (h : wantedName? [] cs = some (name, rest)) :
    wantedChars cs = (name, (wantedValue rest).1) :: wantedChars (wantedValue rest).2 := by
  rw [wantedChars]
  split
  · rename_i hnone
    rw [h] at hnone
    contradiction
  · rename_i hsome
    rw [h] at hsome
    obtain ⟨rfl, rfl⟩ := Prod.mk.inj (Option.some.inj hsome)
    rfl

/-- A row of pairs is read as the pairs. -/
theorem wantedChars_rowChars {pairs : List (String × String)}
    (hnames : ∀ pair ∈ pairs, '=' ∉ pair.1.toList ∧ '\n' ∉ pair.1.toList)
    (hvalues : ∀ pair ∈ pairs, ',' ∉ pair.2.toList) :
    wantedChars (rowChars pairs) = pairs.map fun pair => (pair.1.toList, pair.2.toList) := by
  have hnil : wantedChars [] = [] := by rw [wantedChars]; rfl
  induction pairs using rowChars.induct with
  | case1 => exact hnil
  | case2 pair =>
    obtain ⟨hequals, hline⟩ := hnames pair (List.mem_singleton_self pair)
    have hvalue : wantedValue pair.2.toList = (pair.2.toList, []) := by
      simpa [wantedValue] using wantedValue_append (hvalues pair (List.mem_singleton_self pair)) []
    rw [rowChars, wantedChars_of_name (wantedName?_append hequals hline [] _), hvalue, hnil]
    rfl
  | case3 pair rest hrest ih =>
    obtain ⟨⟨hequals, hline⟩, hnames⟩ := List.forall_mem_cons.mp hnames
    obtain ⟨hcomma, hvalues⟩ := List.forall_mem_cons.mp hvalues
    rw [rowChars, wantedChars_of_name (wantedName?_append hequals hline [] _), wantedValue_append hcomma,
      wantedValue_comma, List.append_nil, ih hnames hvalues]
    · rfl
    · exact hrest

/-- A row of pairs is read back. -/
theorem wantedPairs_rowChars {pairs : List (String × String)}
    (hnames : ∀ pair ∈ pairs, '=' ∉ pair.1.toList ∧ '\n' ∉ pair.1.toList)
    (hvalues : ∀ pair ∈ pairs, ',' ∉ pair.2.toList) : wantedPairs (String.ofList (rowChars pairs)) = pairs := by
  rw [wantedPairs, String.toList_ofList, wantedChars_rowChars hnames hvalues, List.map_map]
  refine (List.map_congr_left fun pair _ => ?_).trans (List.map_id pairs)
  simp only [Function.comp_apply, String.ofList_toList, id_eq]

/-- In every environment, a row of quoted pairs wants these pairs. -/
theorem wantedPairs_expand {pairs : List (String × String)} (h : Listable pairs) (vars : Environment) :
    wantedPairs (vars.expand (",".intercalate (pairs.map quotedPair))) = pairs := by
  rw [Environment.expand, toList_quotedRow, expandChars_escapeChars]
  exact wantedPairs_rowChars h.names h.values

/-! ## Kinds and blanks -/

/-- What ends without a blank does so behind anything. -/
theorem endsUnblank_append {c : Char} {cs : List Char} (hc : Text.isBlank c = false) (hcs : Text.EndsUnblank cs)
    (front : List Char) : Text.EndsUnblank (front ++ c :: cs) := by
  intro last hlast
  rw [List.getLast?_append, List.getLast?_cons, Option.some_or, Option.mem_some_iff] at hlast
  cases hend : cs.getLast? with
  | none =>
    rw [hend] at hlast
    exact hlast ▸ hc
  | some last' =>
    rw [hend] at hlast
    exact hcs last (hlast ▸ hend)

/-- Quoting a text does not put a blank at its end. -/
theorem endsUnblank_escapeChars {cs : List Char} (h : Text.EndsUnblank cs) :
    Text.EndsUnblank (Text.escapeChars cs) := by
  rcases List.eq_nil_or_concat cs with rfl | ⟨front, c, rfl⟩
  · exact h
  · have hc : Text.isBlank c = false := h c (by simp)
    have hlast : (Text.escapeChars [c]).getLast? = some c := by
      by_cases hdollar : c = '$' <;> simp [Text.escapeChars, hdollar]
    rw [List.concat_eq_append, escapeChars_append, Text.EndsUnblank, List.getLast?_append, hlast]
    exact fun last h => Option.some.inj h ▸ hc

/-- A row of pairs ends in a blank only if its last value does. -/
theorem endsUnblank_rowChars {pairs : List (String × String)}
    (h : ∀ pair ∈ pairs.getLast?, Text.EndsUnblank pair.2.toList) : Text.EndsUnblank (rowChars pairs) := by
  induction pairs using rowChars.induct with
  | case1 => exact fun _ hnone => nomatch hnone
  | case2 pair => exact endsUnblank_append (by decide) (h pair rfl) _
  | case3 pair rest hrest ih =>
    obtain ⟨next, others, rfl⟩ := List.exists_cons_of_ne_nil hrest
    rw [List.getLast?_cons_cons] at h
    rw [rowChars, ← List.cons_append, ← List.append_assoc]
    · exact endsUnblank_append (by decide) (ih h) _
    · exact hrest

/-- Nothing is dropped from what begins without a blank. -/
theorem dropBlank_eq_self {cs : List Char} (h : ∀ c ∈ cs.head?, Text.isBlank c = false) :
    Text.dropBlank cs = cs := by
  cases cs with
  | nil => rfl
  | cons c cs => simp [Text.dropBlank, h c rfl]

/-- A text with no blank at either end stays as it is when it is trimmed. -/
theorem trimChars_eq_self {cs : List Char} (hfront : ∀ c ∈ cs.head?, Text.isBlank c = false)
    (hend : Text.EndsUnblank cs) : Text.trimChars cs = cs := by
  rw [Text.trimChars, dropBlank_eq_self hfront, dropBlank_eq_self, List.reverse_reverse]
  rwa [List.head?_reverse]

/-- A text is cut at the first separator. -/
theorem cutChars_append {separator : Char} {front : List Char} (h : separator ∉ front) (back : List Char) :
    Text.cutChars separator (front ++ separator :: back) = (front, some back) := by
  induction front with
  | nil => simp [Text.cutChars]
  | cons c front ih =>
    obtain ⟨hc, hfront⟩ := not_or.mp (mt List.mem_cons.mpr h)
    rw [List.cons_append, Text.cutChars, if_neg (by simpa using Ne.symm hc), ih hfront]

/-- The kind and the argument of a specification are read as they were written, unless the argument ends in a blank. -/
theorem splitSpec_append {kind argument : String} (hkind : Text.trimChars kind.toList = kind.toList)
    (hcolon : ':' ∉ kind.toList) (hfront : kind.toList.head?.any Text.isBlank = false)
    (hend : Text.EndsUnblank argument.toList) :
    splitSpec (kind ++ ":" ++ argument).toList = (kind.toList, argument.toList) := by
  have hchars : (kind ++ ":" ++ argument).toList = kind.toList ++ ':' :: argument.toList := by simp
  have hwhole : Text.trimChars (kind.toList ++ ':' :: argument.toList) = kind.toList ++ ':' :: argument.toList := by
    refine trimChars_eq_self ?_ (endsUnblank_append (by decide) hend _)
    cases hcs : kind.toList with
    | nil => exact fun c hc => Option.some.inj hc ▸ (by decide)
    | cons c cs =>
      rw [hcs] at hfront
      exact fun c hc => Option.some.inj hc ▸ hfront
  simp only [splitSpec, hchars, hwhole, cutChars_append hcolon, hkind, Option.getD_some]

/-- The specification of a filter on parameters, as it is written. -/
theorem ofSpec_parameters {wanted : String} (h : Text.EndsUnblank wanted.toList) :
    RunFilter.ofSpec ("parameters" ++ ":" ++ wanted) = .ok (.leaf (.parameters wanted)) := by
  have hparts : splitSpec ("parameters" ++ ":" ++ wanted).toList = ("parameters".toList, wanted.toList) :=
    splitSpec_append (by decide) (by decide) (by decide) h
  rw [RunFilter.ofSpec, RunFilter.ofSpecChars]
  simp only [hparts, if_true, String.ofList_toList]

/-- The specification of a filter on a display name, as it is written. -/
theorem ofSpec_displayName {name : String} (hname : name ≠ "") (h : Text.EndsUnblank name.toList) :
    RunFilter.ofSpec ("display-name" ++ ":" ++ name) = .ok (.leaf (.displayName name)) := by
  have hparts : splitSpec ("display-name" ++ ":" ++ name).toList = ("display-name".toList, name.toList) :=
    splitSpec_append (by decide) (by decide) (by decide) h
  have hother : ("display-name".toList = "parameters".toList) = False := by decide
  rw [RunFilter.ofSpec, RunFilter.ofSpecChars]
  simp only [hparts, hother, if_true, if_false, String.ofList_toList, required, String.isEmpty_iff, hname]
  rfl

/-! ## The conditions of a filter -/

variable {σ : Type}

/-- A criterion that declines answers no. -/
theorem on_decline (notice : Notice) (desk : Desk σ) : ((Criterion.decline notice).on desk).1 = .ok false := rfl

/-- The condition on parameters accepts a run when that is its verdict, and otherwise declines it or fails. -/
theorem judge_parameters_iff (wanted : String) (run : Run) (context : Context) (desk : Desk σ) :
    (((Criterion.parameters wanted).judge run context).on desk).1 = .ok true ↔
      (Criterion.parameters wanted).accepts context.vars run = true := by
  simp only [Criterion.judge, Criterion.accepts, Work.on_bind, Work.on_ofExcept]
  cases run.lookup with
  | error failure => simp
  | ok answer =>
    cases answer with
    | failed failure => simp [on_decline]
    | found own =>
      rw [Criterion.wantedIn, Context.expand]
      by_cases h : Criterion.satisfies own (wantedPairs (context.vars.expand wanted)) = true
      · simp [h]
      · simp [h, on_decline]

/-- The condition on the display name never fails. -/
theorem judge_displayName (name : String) (run : Run) (context : Context) (desk : Desk σ) :
    (((Criterion.displayName name).judge run context).on desk).1 =
      .ok (decide (run.displayName = context.vars.expand name)) := by
  simp only [Criterion.judge, Context.expand]
  by_cases h : run.displayName = context.vars.expand name
  · simp [h]
  · simp [h, on_decline]

/-- The verdict on wanted parameters that the variables of a run are looked up for. -/
theorem accepts_parameters_iff {vars : Environment} {wanted : String} {pairs : List (String × String)}
    (hwanted : wantedPairs (vars.expand wanted) = pairs) (run : Run) :
    (Criterion.parameters wanted).accepts vars run = true ↔
      ∃ own, run.environment = .ok own ∧ ∀ pair ∈ pairs, run.valueOf? own pair.1 = some pair.2 := by
  rw [Criterion.accepts, hwanted]
  constructor
  · intro h
    split at h
    · rename_i vars hlookup
      obtain ⟨own, hown⟩ := run.exists_lookup.mp ⟨vars, hlookup⟩
      refine ⟨own, hown, fun pair hpair => ?_⟩
      rw [← Run.get?_of_lookup hown hlookup]
      exact eq_of_beq (List.all_eq_true.mp h pair hpair)
    · contradiction
  · rintro ⟨own, hown, hvalues⟩
    obtain ⟨vars, hlookup⟩ := run.exists_lookup.mpr ⟨own, hown⟩
    simp only [hlookup]
    refine List.all_eq_true.mpr fun pair hpair => beq_iff_eq.mpr ?_
    rw [Run.get?_of_lookup hown hlookup]
    exact hvalues pair hpair

end QuotingAux

open QuotingAux

/-- Quoting is complete.
(1) The filter that is specified by quoted pairs accepts a run, in every context, exactly if the snapshot of the run can
be read and every name of the pairs has its value once the parameters of the run are merged into it.
(2) The filter that is specified by a quoted display name accepts the runs of that name, in every context, and declines
all others. -/
theorem quoted_specifications {σ : Type} :
    (∀ pairs, Listable pairs → ∃ filter, RunFilter.ofSpec (parametersSpec pairs) = .ok filter ∧
      ∀ (run : Run) (context : Context) (desk : Desk σ),
        ((filter.judge Criterion.judge run context).on desk).1 = .ok true ↔
          ∃ own, run.environment = .ok own ∧ ∀ pair ∈ pairs, run.valueOf? own pair.1 = some pair.2) ∧
    (∀ name, name ≠ "" → Text.EndsUnblank name.toList →
      ∃ filter, RunFilter.ofSpec (displayNameSpec name) = .ok filter ∧
        ∀ (run : Run) (context : Context) (desk : Desk σ),
          ((filter.judge Criterion.judge run context).on desk).1 = .ok (decide (run.displayName = name))) := by
  constructor
  · intro pairs h
    refine ⟨.leaf (.parameters (",".intercalate (pairs.map quotedPair))), ofSpec_parameters ?_, ?_⟩
    · rw [toList_quotedRow]
      exact endsUnblank_escapeChars (endsUnblank_rowChars h.ending)
    · intro run context desk
      rw [RunFilter.judge, RunFilter.holds, judge_parameters_iff]
      exact accepts_parameters_iff (wantedPairs_expand h context.vars) run
  · intro name hname hend
    refine ⟨.leaf (.displayName (Text.escape name)), ofSpec_displayName ?_ ?_, ?_⟩
    · intro hempty
      have hsame : Text.escape name = Text.escape "" := hempty
      exact hname (by rw [← expand_escape [] name, hsame, expand_escape])
    · rw [Text.escape, String.toList_ofList]
      exact endsUnblank_escapeChars hend
    · intro run context desk
      rw [RunFilter.judge, RunFilter.holds, judge_displayName, expand_escape]

/-- A run with texts that are full of separators, and a run that differs from it in one dollar sign. -/
theorem quoted_specifications_of_separators :
    let pairs := [("MODE", "a=$b"), ("x, y", "$$\x7bb\x7d: 1\n"), ("NOTE", "")]
    let run (mode : String) : Run :=
      { (default : Run) with
        snapshot := .available [(.text "MODE", .text "old"), (.text "NOTE", .text "")]
        contributions := [[⟨.text, .text "x, y", .text "$$\x7bb\x7d: 1\n"⟩], [⟨.file, .text "NOTE", .text "n.txt"⟩],
          [⟨.text, .text "MODE", .text mode⟩]]
        displayName := "$" ++ mode }
    let context : Context := .fresh [(.text "b", "c")]
    let verdict (filter : RunFilter Criterion) (run : Run) : Except Failure Bool :=
      ((filter.judge Criterion.judge run context).on (default : Desk Unit)).1
    Listable pairs ∧
      (∃ filter, RunFilter.ofSpec (parametersSpec pairs) = .ok filter ∧ verdict filter (run "a=$b") = .ok true ∧
        verdict filter (run "a=$$b") ≠ .ok true) ∧
      ∃ filter, RunFilter.ofSpec (displayNameSpec "$a=$b") = .ok filter ∧ verdict filter (run "a=$b") = .ok true ∧
        verdict filter (run "a=$$b") = .ok false := by
  intro pairs run context verdict
  have hlistable : Listable pairs := ⟨by decide, by decide, by decide +kernel⟩
  obtain ⟨filter, hfilter, hverdict⟩ := (@quoted_specifications Unit).1 pairs hlistable
  obtain ⟨filter', hfilter', hverdict'⟩ :=
    (@quoted_specifications Unit).2 "$a=$b" (by decide) (by decide)
  have henvironment (mode : String) :
      (run mode).environment = .ok [(.text "MODE", "old"), (.text "NOTE", "")] := by
    rfl
  refine ⟨hlistable, ⟨filter, hfilter, ?_, ?_⟩, filter', hfilter', ?_, ?_⟩
  · exact (hverdict _ context _).mpr ⟨_, henvironment _, by decide⟩
  · intro haccepted
    obtain ⟨own, hown, hvalues⟩ := (hverdict _ context _).mp haccepted
    obtain rfl := Except.ok.inj ((henvironment _).symm.trans hown)
    exact absurd (hvalues ("MODE", "a=$b") (by decide)) (by decide)
  · exact (hverdict' _ context _).trans (congrArg Except.ok (by decide))
  · exact (hverdict' _ context _).trans (congrArg Except.ok (by decide))

end RunPicker
