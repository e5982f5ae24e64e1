import Storyboard.Proofs.Document.Report
import Storyboard.Proofs.Schema.Editing

/-!
# Declaring what is missing

A document is repaired by declaring what its warnings name: an empty screen, a table with no
fields, a token with some value. No declaration makes a reference, so the references stay the
same and each declaration answers those to its own name, whatever way they were found in.
`declaring_missing_repairs` says so of every accepted document.
-/
namespace Storyboard

/-- Something declared in a document. -/
inductive Declaration where
  | screen (id : String)
  | table (name : String)
  | token (name : String) (value : TokenValue)

namespace Declaration

/-- What is declared: its kind and its name. -/
def subject : Declaration → ReferenceKind × String
  | .screen id => (.screen, id)
  | .table name => (.table, name)
  | .token name _ => (.token, name)

/-- The problem of a document that lacks the declaration. -/
def problem (decl : Declaration) : Problem :=
  Reference.problem ⟨decl.subject.1, decl.subject.2, []⟩

/-- Whether a reference refers to what is declared. -/
def answers (decl : Declaration) (r : Reference) : Bool := decl.subject == (r.kind, r.name)

/-- A document with one declaration more: an empty screen, a table with no fields, or a token. -/
def addTo (decl : Declaration) : Json → Json
  | .obj document =>
    match decl with
    | .screen id =>
      .obj ((Key.plain "screens").edit document fun screens => Assoc.put screens id (.obj []))
    | .table name =>
      .obj ((Key.plain "app").edit document fun app =>
        Keys.databaseSchema.edit app fun tables =>
          Assoc.put tables name (.obj [("fields", .obj [])]))
    | .token name value =>
      .obj ((Key.plain "app").edit document fun app =>
        Keys.designTokens.edit app fun tokens => Assoc.put tokens name value.toJson)
  | other => other

/-- A document with declarations added one after the other. -/
def addAll (decls : List Declaration) (document : Json) : Json :=
  decls.foldl (fun document decl => decl.addTo document) document

/-- One declaration for each name that is missing, a token with the value chosen for it. -/
def missing (value : String → TokenValue) (undeclared : List Reference) : List Declaration :=
  (missingNames .screen undeclared).map .screen ++ (missingNames .table undeclared).map .table ++
    (missingNames .token undeclared).map fun name => .token name (value name)

end Declaration

/-- A screen that shows nothing. -/
def blankScreen : Screen := ⟨.absent, .absent, none, .absent, none, []⟩

/-- A table with no fields. -/
def blankTable : Table := ⟨[], .absent, []⟩

namespace Definition

/-- What is read of a document with one declaration more. -/
def declare (d : Definition) : Declaration → Definition
  | .screen id => { d with screens := d.screens ++ [(id, blankScreen)] }
  | .table name =>
    let tables := d.app.databaseSchema.toOption.getD [] ++ [(name, blankTable)]
    { d with app := { d.app with databaseSchema := .value tables } }
  | .token name value =>
    let tokens := d.app.designTokens.toOption.getD [] ++ [(name, value)]
    { d with app := { d.app with designTokens := .value tokens } }

/-- A document declares nothing under the name of a declaration. -/
def Lacks (d : Definition) (decl : Declaration) : Prop :=
  ∀ r, decl.answers r = true → d.declares r = false

end Definition

namespace Read

variable {o : Assoc Json} {f : Assoc Json → Assoc Json} {d : Definition} {m : Metadata}

theorem tokenValue_toJson (value : TokenValue) : tokenValue value.toJson = .ok value := by
  cases value <;> rfl

theorem screens_of_definition (h : definition (.obj o) = .ok d) :
    table screen (.obj ((Key.plain "screens").table o)) = .ok d.screens := by
  obtain ⟨-, -, hscreens, -⟩ := definition_eq_ok.mp h
  refine read_table_of_required (fun v hv => ?_) hscreens
  obtain ⟨fields, hfields, -⟩ := table_eq_ok.mp hv
  exact ⟨fields, hfields⟩

theorem app_of_definition (h : definition (.obj o) = .ok d) :
    metadata (.obj ((Key.plain "app").table o)) = .ok d.app := by
  obtain ⟨-, happ, -⟩ := definition_eq_ok.mp h
  refine read_table_of_required (fun v hv => ?_) happ
  obtain ⟨fields, hfields, -⟩ := record_eq_ok hv
  exact ⟨fields, hfields⟩

/-- A document with its screens edited is read with the screens that are read from them. -/
theorem definition_edit_screens {screens : Assoc Screen} (h : definition (.obj o) = .ok d)
    (edited : table screen (.obj (f ((Key.plain "screens").table o))) = .ok screens) :
    definition (.obj ((Key.plain "screens").edit o f)) = .ok { d with screens := screens } := by
  obtain ⟨hversion, happ, -, hinitial, hextra⟩ := definition_eq_ok.mp h
  refine definition_eq_ok.mpr ⟨?_, ?_, required_edit edited, ?_, ?_⟩
  · rw [required_edit_of_apart (by decide), hversion]
  · rw [required_edit_of_apart (by decide), happ]
  · rw [required_edit_of_apart (by decide), hinitial]
  · rw [extraFields_edit (by decide) (by decide), hextra]

/-- A document with its app edited is read with the app that is read from it. -/
theorem definition_edit_app (h : definition (.obj o) = .ok d)
    (edited : metadata (.obj (f ((Key.plain "app").table o))) = .ok m) :
    definition (.obj ((Key.plain "app").edit o f)) = .ok { d with app := m } := by
  obtain ⟨hversion, -, hscreens, hinitial, hextra⟩ := definition_eq_ok.mp h
  refine definition_eq_ok.mpr ⟨?_, required_edit edited, ?_, ?_, ?_⟩
  · rw [required_edit_of_apart (by decide), hversion]
  · rw [required_edit_of_apart (by decide), hscreens]
  · rw [required_edit_of_apart (by decide), hinitial]
  · rw [extraFields_edit (by decide) (by decide), hextra]

/-- An app with its tables edited is read with the tables that are read from them. -/
theorem metadata_edit_tables {tables : Assoc Table} (h : metadata (.obj o) = .ok m)
    (edited : table databaseTable (.obj (f (Keys.databaseSchema.table o))) = .ok tables) :
    metadata (.obj (Keys.databaseSchema.edit o f)) =
      .ok { m with databaseSchema := .value tables } := by
  obtain ⟨hname, htheme, htokens, -, hauth, hextra⟩ := metadata_eq_ok.mp h
  refine metadata_eq_ok.mpr ⟨?_, ?_, ?_, slot_edit edited, ?_, ?_⟩
  · rw [required_edit_of_apart (by decide), hname]
  · rw [slot_edit_of_apart (by decide), htheme]
  · rw [slot_edit_of_apart (by decide), htokens]
  · rw [slot_edit_of_apart (by decide), hauth]
  · rw [extraFields_edit (by decide) (by decide), hextra]

/-- An app with its tokens edited is read with the tokens that are read from them. -/
theorem metadata_edit_tokens {tokens : Assoc TokenValue} (h : metadata (.obj o) = .ok m)
    (edited : table tokenValue (.obj (f (Keys.designTokens.table o))) = .ok tokens) :
    metadata (.obj (Keys.designTokens.edit o f)) =
      .ok { m with designTokens := .value tokens } := by
  obtain ⟨hname, htheme, -, htables, hauth, hextra⟩ := metadata_eq_ok.mp h
  refine metadata_eq_ok.mpr ⟨?_, ?_, slot_edit edited, ?_, ?_, ?_⟩
  · rw [required_edit_of_apart (by decide), hname]
  · rw [slot_edit_of_apart (by decide), htheme]
  · rw [slot_edit_of_apart (by decide), htables]
  · rw [slot_edit_of_apart (by decide), hauth]
  · rw [extraFields_edit (by decide) (by decide), hextra]

end Read

namespace Definition

variable {d : Definition} {decl other : Declaration}

theorem Lacks.not_declared {kind : ReferenceKind} {name : String} (h : d.Lacks decl)
    (subject : decl.subject = (kind, name)) (path : List String) :
    d.declares ⟨kind, name, path⟩ = false :=
  h _ (by rw [Declaration.answers, subject, beq_self_eq_true])

/-- What is read after a declaration was added to a document that lacked it. -/
theorem read_addTo {data : Json} (h : Read.definition data = .ok d) (lacks : d.Lacks decl) :
    Read.definition (decl.addTo data) = .ok (d.declare decl) := by
  obtain ⟨o, rfl, -⟩ := Read.record_eq_ok h
  cases decl with
  | screen id =>
    have hnew : id ∉ Assoc.keys d.screens := by
      intro hmem
      have hdeclared := lacks.not_declared rfl []
      simp [declares, namesScreen, Assoc.has_eq_true.mpr hmem] at hdeclared
    exact Read.definition_edit_screens h (Read.table_put (Read.screens_of_definition h) hnew rfl)
  | table name =>
    have hnew : name ∉ Assoc.keys (d.app.databaseSchema.toOption.getD []) := by
      intro hmem
      have hdeclared := lacks.not_declared rfl []
      simp [declares, tableNames, hmem] at hdeclared
    have happ := Read.app_of_definition h
    obtain ⟨-, -, -, htables, -⟩ := Read.metadata_eq_ok.mp happ
    have hmore := Read.table_put (u := .obj [("fields", .obj [])]) (Read.read_table_of_slot htables)
      hnew rfl
    exact Read.definition_edit_app h (Read.metadata_edit_tables happ hmore)
  | token name value =>
    have hnew : name ∉ Assoc.keys (d.app.designTokens.toOption.getD []) := by
      intro hmem
      have hdeclared := lacks.not_declared rfl []
      rw [← Assoc.has_eq_true] at hmem
      simp [declares, tokens, Assoc.has_mapValues, hmem] at hdeclared
    have happ := Read.app_of_definition h
    obtain ⟨-, -, htokens, -⟩ := Read.metadata_eq_ok.mp happ
    have hmore := Read.table_put (Read.read_table_of_slot htokens) hnew
      (Read.tokenValue_toJson value)
    exact Read.definition_edit_app h (Read.metadata_edit_tokens happ hmore)

theorem screenReferences_append (screens : List (String × Screen)) (id : String) :
    screenReferences (screens ++ [(id, blankScreen)]) = screenReferences screens := by
  induction screens with
  | nil => rfl
  | cons p rest ih => rw [List.cons_append, screenReferences, screenReferences, ih]

/-- No declaration makes a reference. -/
theorem references_declare (d : Definition) (decl : Declaration) :
    (d.declare decl).references = d.references := by
  cases decl with
  | screen id =>
    have hscreens := screenReferences_append d.screens id
    unfold references
    rw [declare, hscreens]
    rfl
  | table name => rfl
  | token name value => rfl

theorem namesScreen_declare (d : Definition) (decl : Declaration) (id : String) :
    (d.declare decl).namesScreen id = (d.namesScreen id || decl.subject == (.screen, id)) := by
  cases decl with
  | screen other =>
    have hhas : Assoc.has (d.screens ++ [(other, blankScreen)]) id =
        (Assoc.has d.screens id || other == id) := by
      rw [Assoc.has_append]
      by_cases heq : other = id <;> simp [Assoc.has, Assoc.get?, heq]
    have hsubject : ((Declaration.screen other).subject == (ReferenceKind.screen, id)) =
        (other == id) := rfl
    rw [namesScreen, namesScreen, declare, hhas, hsubject]
    ac_rfl
  | table name => exact (Bool.or_false _).symm
  | token name value => exact (Bool.or_false _).symm

theorem tableNames_declare (d : Definition) (decl : Declaration) (name : String) :
    (d.declare decl).tableNames.contains name =
      (d.tableNames.contains name || decl.subject == (.table, name)) := by
  cases decl with
  | screen id => exact (Bool.or_false _).symm
  | table other =>
    have hsubject : ((Declaration.table other).subject == (ReferenceKind.table, name)) =
        (other == name) := rfl
    have hnames : (d.declare (.table other)).tableNames = d.tableNames ++ [other] := by
      simp [tableNames, declare, Slot.toOption, Assoc.keys]
    rw [hnames, hsubject, List.contains_append, List.contains_cons, List.contains_nil,
      Bool.or_false, Bool.beq_comm]
  | token other value => exact (Bool.or_false _).symm

theorem has_tokens_declare (d : Definition) (decl : Declaration) (name : String) :
    Assoc.has (d.declare decl).tokens name =
      (Assoc.has d.tokens name || decl.subject == (.token, name)) := by
  cases decl with
  | screen id => exact (Bool.or_false _).symm
  | table other => exact (Bool.or_false _).symm
  | token other value =>
    have hsubject : ((Declaration.token other value).subject == (ReferenceKind.token, name)) =
        (other == name) := rfl
    have htokens : (d.declare (.token other value)).tokens =
        d.tokens ++ [(other, value.toJson)] := by
      simp [tokens, declare, Slot.toOption, Assoc.mapValues]
    rw [htokens, hsubject, Assoc.has_append]
    by_cases heq : other = name <;> simp [Assoc.has, Assoc.get?, heq]

/-- A declaration answers the references to what is declared, and no others. -/
theorem declares_declare (d : Definition) (decl : Declaration) (r : Reference) :
    (d.declare decl).declares r = (d.declares r || decl.answers r) := by
  obtain ⟨kind, name, path⟩ := r
  cases kind with
  | screen => exact d.namesScreen_declare decl name
  | table => exact d.tableNames_declare decl name
  | token => exact d.has_tokens_declare decl name

/-- A declaration does not stand in for another one. -/
theorem Lacks.declare (lacks : d.Lacks other) (apart : decl.subject ≠ other.subject) :
    (d.declare decl).Lacks other := by
  intro r hanswers
  have hother : other.subject = (r.kind, r.name) := eq_of_beq hanswers
  have hnot : decl.answers r = false := beq_false_of_ne (hother ▸ apart)
  rw [declares_declare, lacks r hanswers, hnot]
  rfl

end Definition

namespace Declaration

variable {d : Definition} {data : Json} {decls : List Declaration} {undeclared : List Reference}

/-- What is read after declarations were added one after the other: a document with the same
references that also declares what they declare. -/
theorem read_addAll (h : Read.definition data = .ok d) (lacks : ∀ decl ∈ decls, d.Lacks decl)
    (distinct : (decls.map subject).Nodup) :
    ∃ d', Read.definition (addAll decls data) = .ok d' ∧ d'.references = d.references ∧
      ∀ r, d'.declares r = (d.declares r || decls.any (·.answers r)) := by
  induction decls generalizing d data with
  | nil => exact ⟨d, h, rfl, fun r => (Bool.or_false _).symm⟩
  | cons decl rest ih =>
    obtain ⟨hfirst, hrest⟩ := List.nodup_cons.mp distinct
    obtain ⟨hlacks, hothers⟩ := List.forall_mem_cons.mp lacks
    have hstill : ∀ other ∈ rest, (d.declare decl).Lacks other := fun other hother =>
      (hothers other hother).declare fun heq => hfirst (heq ▸ List.mem_map_of_mem hother)
    obtain ⟨d', hread, hrefs, hdeclares⟩ :=
      ih (Definition.read_addTo h hlacks) hstill hrest
    refine ⟨d', hread, hrefs.trans (d.references_declare decl), fun r => ?_⟩
    rw [hdeclares, Definition.declares_declare, List.any_cons, Bool.or_assoc]

/-- The warnings that are left after declarations were added are those that none of them
answers. -/
theorem validated_addAll (h : Read.definition data = .ok d)
    (dangling : d.danglingReferences = .ok undeclared) (lacks : ∀ decl ∈ decls, d.Lacks decl)
    (distinct : (decls.map subject).Nodup) :
    ∃ v, Validation.ofJson (addAll decls data) = .ok v ∧ v.succeeded = true ∧
      v.warnings = (undeclared.filter fun r => !decls.any (·.answers r)).map Reference.issue := by
  obtain ⟨refs, hrefs, rfl⟩ := Definition.danglingReferences_eq_ok.mp dangling
  obtain ⟨d', hread, hsame, hdeclares⟩ := read_addAll h lacks distinct
  have hdangling := Definition.danglingReferences_eq_ok.mpr ⟨refs, hsame.trans hrefs, rfl⟩
  refine ⟨_, Validation.ofJson_eq hread hdangling, rfl, ?_⟩
  rw [List.filter_filter]
  refine congrArg (List.map Reference.issue) (List.filter_congr fun r _ => ?_)
  rw [hdeclares, Bool.not_or, Bool.and_comm]

theorem mem_missingNames {kind : ReferenceKind} {name : String} :
    name ∈ missingNames kind undeclared ↔ ∃ r ∈ undeclared, r.kind = kind ∧ r.name = name := by
  rw [missingNames, (Token.firstOccurrences_distinct _).same]
  simp only [List.mem_map, List.mem_filter, decide_eq_true_eq, and_assoc]

theorem subjects_missing (value : String → TokenValue) (undeclared : List Reference) :
    (missing value undeclared).map subject =
      (missingNames .screen undeclared).map (Prod.mk .screen) ++
        (missingNames .table undeclared).map (Prod.mk .table) ++
        (missingNames .token undeclared).map (Prod.mk .token) := by
  simp only [missing, List.map_append, List.map_map]
  rfl

/-- What is missing is what the references are to that are undeclared. -/
theorem mem_subjects_missing {value : String → TokenValue} {subject' : ReferenceKind × String} :
    subject' ∈ (missing value undeclared).map subject ↔
      ∃ r ∈ undeclared, subject' = (r.kind, r.name) := by
  obtain ⟨kind, name⟩ := subject'
  have hmem : (kind, name) ∈ (missing value undeclared).map subject ↔
      name ∈ missingNames kind undeclared := by
    rw [subjects_missing]
    cases kind <;> simp
  rw [hmem, mem_missingNames]
  simp only [Prod.mk.injEq, eq_comm]

theorem nodup_subjects_missing (value : String → TokenValue) (undeclared : List Reference) :
    ((missing value undeclared).map subject).Nodup := by
  have hnames : ∀ kind, ((missingNames kind undeclared).map (Prod.mk kind)).Nodup := fun kind =>
    (Token.firstOccurrences_distinct _).nodup.map (Prod.mk_right_injective kind)
  have hkind : ∀ kind, ∀ s ∈ (missingNames kind undeclared).map (Prod.mk kind), s.1 = kind := by
    intro kind s hs
    obtain ⟨name, -, rfl⟩ := List.mem_map.mp hs
    rfl
  have hapart : ∀ {kind kind' : ReferenceKind} {s : ReferenceKind × String}, kind ≠ kind' →
      s ∈ (missingNames kind undeclared).map (Prod.mk kind) →
      s ∉ (missingNames kind' undeclared).map (Prod.mk kind') := fun hne hs hs' =>
    hne ((hkind _ _ hs).symm.trans (hkind _ _ hs'))
  rw [subjects_missing]
  refine ((hnames .screen).append (hnames .table) fun s => hapart (by decide)).append
    (hnames .token) fun s hs => ?_
  exact (List.mem_append.mp hs).elim (hapart (by decide)) (hapart (by decide))

/-- A document lacks what is missing in it. -/
theorem lacks_missing (value : String → TokenValue)
    (dangling : d.danglingReferences = .ok undeclared) :
    ∀ decl ∈ missing value undeclared, d.Lacks decl := by
  intro decl hdecl r hanswers
  obtain ⟨refs, -, rfl⟩ := Definition.danglingReferences_eq_ok.mp dangling
  obtain ⟨r', hr', hsubject⟩ := mem_subjects_missing.mp (List.mem_map_of_mem hdecl)
  have hundeclared := (List.mem_filter.mp hr').2
  rw [Bool.not_eq_true'] at hundeclared
  have hsame : (r.kind, r.name) = (r'.kind, r'.name) := (eq_of_beq hanswers).symm.trans hsubject
  obtain ⟨kind, name, path⟩ := r
  obtain ⟨kind', name', path'⟩ := r'
  cases hsame
  exact hundeclared

/-- Every undeclared reference is answered by what is missing. -/
theorem exists_answer (value : String → TokenValue) {r : Reference} (h : r ∈ undeclared) :
    ∃ decl ∈ missing value undeclared, decl.answers r = true := by
  obtain ⟨decl, hdecl, hsubject⟩ := List.mem_map.mp (mem_subjects_missing.mpr ⟨r, h, rfl⟩)
  exact ⟨decl, hdecl, beq_iff_eq.mpr hsubject⟩

theorem unanswered_by_missing (value : String → TokenValue) (undeclared : List Reference) :
    (undeclared.filter fun r => !(missing value undeclared).any (·.answers r)) = [] := by
  rw [List.filter_eq_nil_iff]
  intro r hr
  simp only [Bool.not_eq_true', Bool.not_eq_false, List.any_eq_true]
  exact exists_answer value hr

theorem answers_iff_problem {decl : Declaration} {r : Reference} :
    decl.answers r = true ↔ r.issue.problem = decl.problem := by
  obtain ⟨kind, name, path⟩ := r
  rw [answers, beq_iff_eq]
  cases decl <;> cases kind <;>
    simp [subject, problem, Reference.issue, Reference.problem, eq_comm]

/-- The issues of the references that a declaration answers are those with its problem. -/
theorem issues_answered (decl : Declaration) (refs : List Reference) :
    (refs.filter decl.answers).map Reference.issue =
      (refs.map Reference.issue).filter fun issue => issue.problem = decl.problem := by
  rw [List.filter_map]
  refine congrArg (List.map Reference.issue) (List.filter_congr fun r _ => ?_)
  rw [Function.comp_apply, Bool.eq_iff_iff, answers_iff_problem, decide_eq_true_iff]

/-- Without one of them, what is missing answers all references but those to that one. -/
theorem unanswered_without {value : String → TokenValue} {before after : List Declaration}
    {left : Declaration} (h : missing value undeclared = before ++ left :: after) :
    (undeclared.filter fun r => !(before ++ after).any (·.answers r)) =
      undeclared.filter left.answers := by
  have hnodup := nodup_subjects_missing value undeclared
  rw [h, List.map_append, List.map_cons, List.nodup_middle, ← List.map_append] at hnodup
  have halone := (List.nodup_cons.mp hnodup).1
  refine List.filter_congr fun r hr => ?_
  cases hleft : left.answers r with
  | true =>
    rw [Bool.not_eq_true', List.any_eq_false]
    intro other hother hanswers
    have hsame : other.subject = left.subject :=
      (eq_of_beq hanswers).trans (eq_of_beq hleft).symm
    exact halone (hsame ▸ List.mem_map_of_mem hother)
  | false =>
    obtain ⟨decl, hdecl, hanswers⟩ := exists_answer value hr
    rw [Bool.not_eq_false', List.any_eq_true]
    refine ⟨decl, ?_, hanswers⟩
    rw [h, List.mem_append, List.mem_cons] at hdecl
    rcases hdecl with hbefore | rfl | hafter
    · exact List.mem_append_left _ hbefore
    · rw [hleft] at hanswers
      cases hanswers
    · exact List.mem_append_right _ hafter

end Declaration

/-- Whatever values its tokens are given, an accepted document with a declaration for each name
that is missing is accepted without warnings. With all of them but one, the warnings of that name
are left, each with the path and the message that it had. -/
theorem declaring_missing_repairs {data : Json} {v : Validation} {d : Definition}
    (validated : Validation.ofJson data = .ok v) (accepted : v.definition = some d)
    (value : String → TokenValue) :
    ∃ undeclared, d.danglingReferences = .ok undeclared ∧
      (∃ v', Validation.ofJson (Declaration.addAll (Declaration.missing value undeclared) data) =
        .ok v' ∧ v'.succeeded = true ∧ v'.warnings = []) ∧
      ∀ before left after, Declaration.missing value undeclared = before ++ left :: after →
        ∃ v', Validation.ofJson (Declaration.addAll (before ++ after) data) = .ok v' ∧
          v'.succeeded = true ∧
          v'.warnings = v.warnings.filter fun issue => issue.problem = left.problem := by
  obtain ⟨undeclared, hread, hdangling, rfl⟩ := Validation.accepted validated accepted
  have hlacks := Declaration.lacks_missing value hdangling
  have hnodup := Declaration.nodup_subjects_missing value undeclared
  refine ⟨undeclared, hdangling, ?_, fun before left after hall => ?_⟩
  · obtain ⟨v', hvalidated, hsucceeded, hwarnings⟩ :=
      Declaration.validated_addAll hread hdangling hlacks hnodup
    refine ⟨v', hvalidated, hsucceeded, ?_⟩
    rw [hwarnings, Declaration.unanswered_by_missing, List.map_nil]
  · have hsublist : (before ++ after).Sublist (Declaration.missing value undeclared) :=
      hall ▸ (List.sublist_cons_self left after).append_left before
    obtain ⟨v', hvalidated, hsucceeded, hwarnings⟩ :=
      Declaration.validated_addAll hread hdangling
        (fun decl hdecl => hlacks decl (hsublist.subset hdecl)) (hnodup.sublist (hsublist.map _))
    refine ⟨v', hvalidated, hsucceeded, ?_⟩
    rw [hwarnings, Declaration.unanswered_without hall, Declaration.issues_answered]

/-- With all but its table declared, the gallery keeps the two warnings of that table. -/
theorem gallery_document_repaired :
    ∃ v d, Validation.ofJson galleryDocument = .ok v ∧ v.definition = some d ∧
      v.warnings.length = 6 ∧
      (∃ decls v', Validation.ofJson (Declaration.addAll decls galleryDocument) = .ok v' ∧
        v'.succeeded = true ∧ v'.warnings = []) ∧
      ∃ v', Validation.ofJson (Declaration.addAll [.screen "start", .screen "away",
          .token "dark" (.text "#000000")] galleryDocument) = .ok v' ∧
        v'.succeeded = true ∧ v'.warnings.map Issue.pathText =
          ["screens.home.components.0.dataSource.table",
           "screens.home.components.0.action.table"] := by
  refine ⟨_, _, rfl, rfl, rfl, ?_⟩
  obtain ⟨undeclared, hdangling, hall, hwithout⟩ :=
    @declaring_missing_repairs galleryDocument _ _ rfl rfl fun _ => .text "#000000"
  cases hdangling
  refine ⟨⟨_, hall⟩, ?_⟩
  obtain ⟨v', hvalidated, hsucceeded, hwarnings⟩ :=
    hwithout [.screen "start", .screen "away"] (.table "sales") _ rfl
  refine ⟨v', hvalidated, hsucceeded, ?_⟩
  rw [hwarnings]
  rfl

end Storyboard
