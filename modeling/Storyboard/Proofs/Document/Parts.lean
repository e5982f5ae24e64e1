import Storyboard.Proofs.Action.Restated
import Storyboard.Proofs.Document.Settled

/-!
# The parts of a document are restated

Each part from its fields, components by induction on the levels left for them.
-/
namespace Storyboard

theorem faithful_column : Faithful (.part .column) Read.column (Column.dump .asWritten)
    Column.settled := by
  intro v x hv hx
  obtain ⟨o, rfl, hfields⟩ := Read.record_eq_ok hx
  simp only [Check.seq_eq_ok, Check.map_eq_ok] at hfields
  obtain ⟨_, ⟨_, ⟨_, ⟨type, htype, rfl⟩, description, hdescription, rfl⟩, default, hdefault, rfl⟩,
    required, hrequired, rfl⟩ := hfields
  have htype := retold_required (faithful_choice _ _) hv htype
  have hdescription := retold_slot faithful_text solid_str hv hdescription
  have hdefault := retold_optional faithful_anything hv .null hdefault
  have hrequired := retold_slot faithful_flag solid_bool hv hrequired
  refine restated_of_fields hv ?_ fun o' ho' hextra => ?_
  · exact .cons ⟨rfl, htype.toTold⟩ (.cons ⟨rfl, hdescription.toTold⟩
      (.cons ⟨rfl, hdefault.toTold⟩ (.cons ⟨rfl, hrequired.toTold⟩ .nil)))
  · simp only [List.forall_mem_cons] at ho'
    obtain ⟨h1, h2, h3, h4, -⟩ := ho'
    have hextra' : extraFields Keys.column o' = _ := hextra
    simp only [Read.column, Read.record_obj, htype.again o' h1, hdescription.again o' h2,
      hdefault.again o' h3, hrequired.again o' h4, hextra', Column.settled, Slot.map_id]
    rfl

theorem faithful_databaseTable : Faithful (.part .table) Read.databaseTable
    (Table.dump .asWritten) Table.settled := by
  intro v x hv hx
  obtain ⟨o, rfl, hfields⟩ := Read.record_eq_ok hx
  simp only [Check.seq_eq_ok, Check.map_eq_ok] at hfields
  obtain ⟨_, ⟨columns, hcolumns, rfl⟩, description, hdescription, rfl⟩ := hfields
  have hcolumns := retold_required faithful_column.table hv hcolumns
  have hdescription := retold_slot faithful_text solid_str hv hdescription
  refine restated_of_fields hv ?_ fun o' ho' hextra => ?_
  · exact .cons ⟨rfl, hcolumns.toTold⟩ (.cons ⟨rfl, hdescription.toTold⟩ .nil)
  · simp only [List.forall_mem_cons] at ho'
    obtain ⟨h1, h2, -⟩ := ho'
    have hextra' : extraFields Keys.table o' = _ := hextra
    simp only [Read.databaseTable, Read.record_obj, hcolumns.again o' h1,
      hdescription.again o' h2, hextra', Table.settled, Slot.map_id]
    rfl

theorem faithful_authentication : Faithful (.part .authentication) Read.authentication
    (Authentication.dump .asWritten) Authentication.settled := by
  intro v x hv hx
  obtain ⟨o, rfl, hfields⟩ := Read.record_eq_ok hx
  simp only [Check.seq_eq_ok, Check.map_eq_ok] at hfields
  obtain ⟨_, ⟨_, ⟨_, ⟨_, ⟨_, ⟨enabled, henabled, rfl⟩, user, huser, rfl⟩, email, hemail, rfl⟩,
    password, hpassword, rfl⟩, login, hlogin, rfl⟩, redirect, hredirect, rfl⟩ := hfields
  have henabled := retold_required faithful_flag hv henabled
  have huser := retold_required faithful_text hv huser
  have hemail := retold_required faithful_text hv hemail
  have hpassword := retold_required faithful_text hv hpassword
  have hlogin := retold_required faithful_text hv hlogin
  have hredirect := retold_required faithful_text hv hredirect
  refine restated_of_fields hv ?_ fun o' ho' hextra => ?_
  · exact .cons ⟨rfl, henabled.toTold⟩ (.cons ⟨rfl, huser.toTold⟩ (.cons ⟨rfl, hemail.toTold⟩
      (.cons ⟨rfl, hpassword.toTold⟩ (.cons ⟨rfl, hlogin.toTold⟩
        (.cons ⟨rfl, hredirect.toTold⟩ .nil)))))
  · simp only [List.forall_mem_cons] at ho'
    obtain ⟨h1, h2, h3, h4, h5, h6, -⟩ := ho'
    have hextra' : extraFields Keys.authentication o' = _ := hextra
    simp only [Read.authentication, Read.record_obj, henabled.again o' h1, huser.again o' h2,
      hemail.again o' h3, hpassword.again o' h4, hlogin.again o' h5, hredirect.again o' h6, hextra',
      Authentication.settled]
    rfl

theorem faithful_theme : Faithful (.part .theme) Read.theme (Theme.dump .asWritten)
    Theme.settled := by
  intro v x hv hx
  obtain ⟨o, rfl, hfields⟩ := Read.record_eq_ok hx
  simp only [Check.seq_eq_ok, Check.map_eq_ok] at hfields
  obtain ⟨_, ⟨_, ⟨_, ⟨_, ⟨primary, hprimary, rfl⟩, secondary, hsecondary, rfl⟩, background,
    hbackground, rfl⟩, text, htext, rfl⟩, font, hfont, rfl⟩ := hfields
  have hprimary := retold_slot faithful_text solid_str hv hprimary
  have hsecondary := retold_slot faithful_text solid_str hv hsecondary
  have hbackground := retold_slot faithful_text solid_str hv hbackground
  have htext := retold_slot faithful_text solid_str hv htext
  have hfont := retold_slot faithful_text solid_str hv hfont
  refine restated_of_fields hv ?_ fun o' ho' hextra => ?_
  · exact .cons ⟨rfl, hprimary.toTold⟩ (.cons ⟨rfl, hsecondary.toTold⟩
      (.cons ⟨rfl, hbackground.toTold⟩ (.cons ⟨rfl, htext.toTold⟩
        (.cons ⟨rfl, hfont.toTold⟩ .nil))))
  · simp only [List.forall_mem_cons] at ho'
    obtain ⟨h1, h2, h3, h4, h5, -⟩ := ho'
    have hextra' : extraFields Keys.theme o' = _ := hextra
    simp only [Read.theme, Read.record_obj, hprimary.again o' h1, hsecondary.again o' h2,
      hbackground.again o' h3, htext.again o' h4, hfont.again o' h5, hextra', Theme.settled,
      Slot.map_id]
    rfl

theorem faithful_dataSource : Faithful (.part .dataSource) Read.dataSource
    (DataSource.dump .asWritten) DataSource.settled := by
  intro v x hv hx
  obtain ⟨o, rfl, hfields⟩ := Read.record_eq_ok hx
  simp only [Check.seq_eq_ok, Check.map_eq_ok] at hfields
  obtain ⟨_, ⟨_, ⟨table, htable, rfl⟩, filters, hfilters, rfl⟩, order, horder, rfl⟩ := hfields
  have htable := retold_required faithful_text hv htable
  have hfilters := retold_slot faithful_anyTable solid_obj hv hfilters
  have horder := retold_slot faithful_text solid_str hv horder
  refine restated_of_fields hv ?_ fun o' ho' hextra => ?_
  · exact .cons ⟨rfl, htable.toTold⟩ (.cons ⟨rfl, hfilters.toTold⟩
      (.cons ⟨rfl, horder.toTold⟩ .nil))
  · simp only [List.forall_mem_cons] at ho'
    obtain ⟨h1, h2, h3, -⟩ := ho'
    have hextra' : extraFields Keys.dataSourceFields o' = _ := hextra
    simp only [Read.dataSource, Read.record_obj, htable.again o' h1, hfilters.again o' h2,
      horder.again o' h3, hextra', DataSource.settled, Slot.map_id]
    rfl

theorem faithful_component (levels : Nat) : Faithful (.part .component) (Read.component levels)
    (Component.dump .asWritten) Component.settled := by
  induction levels with
  | zero =>
    intro v x _ hx
    cases hx
  | succ levels ih =>
    intro v x hv hx
    obtain ⟨o, rfl, hfields⟩ := Read.record_eq_ok hx
    simp only [Check.seq_eq_ok, Check.map_eq_ok] at hfields
    obtain ⟨_, ⟨_, ⟨_, ⟨_, ⟨_, ⟨_, ⟨_, ⟨_, ⟨_, ⟨_, ⟨type, htype, rfl⟩, id, hid, rfl⟩, content,
      hcontent, rfl⟩, placeholder, hplaceholder, rfl⟩, action, haction, rfl⟩, source, hsource, rfl⟩,
      template, htemplate, rfl⟩, showIf, hshowIf, rfl⟩, style, hstyle, rfl⟩, children, hchildren,
      rfl⟩, components, hcomponents, rfl⟩ := hfields
    have htype := retold_required (faithful_choice _ _) hv htype
    have hid := retold_slot faithful_text solid_str hv hid
    have hcontent := retold_slot faithful_text solid_str hv hcontent
    have hplaceholder := retold_slot faithful_text solid_str hv hplaceholder
    have haction := retold_slot (Action.faithful_read levels .component) solid_action hv haction
    have hsource := retold_slot faithful_dataSource solid_obj hv hsource
    have htemplate := retold_optional faithful_anything hv .null htemplate
    have hshowIf := retold_slot (faithful_choice _ _) solid_str hv hshowIf
    have hstyle := retold_slot faithful_anyTable solid_obj hv hstyle
    have hchildren := retold_slot ih.list solid_arr hv hchildren
    have hcomponents := retold_slot ih.list solid_arr hv hcomponents
    rw [Component.dump_eq]
    refine restated_of_fields hv ?_ fun o' ho' hextra => ?_
    · exact .cons ⟨rfl, htype.toTold⟩ (.cons ⟨rfl, hid.toTold⟩ (.cons ⟨rfl, hcontent.toTold⟩
        (.cons ⟨rfl, hplaceholder.toTold⟩ (.cons ⟨rfl, haction.toTold⟩ (.cons ⟨rfl, hsource.toTold⟩
          (.cons ⟨rfl, htemplate.toTold⟩ (.cons ⟨rfl, hshowIf.toTold⟩ (.cons ⟨rfl, hstyle.toTold⟩
            (.cons ⟨rfl, hchildren.toTold⟩ (.cons ⟨rfl, hcomponents.toTold⟩ .nil))))))))))
    · simp only [List.forall_mem_cons] at ho'
      obtain ⟨h1, h2, h3, h4, h5, h6, h7, h8, h9, h10, h11, -⟩ := ho'
      have hextra' : extraFields Keys.component o' = _ := hextra
      simp only [Read.component, Read.record_obj, htype.again o' h1, hid.again o' h2,
        hcontent.again o' h3, hplaceholder.again o' h4, haction.again o' h5, hsource.again o' h6,
        htemplate.again o' h7, hshowIf.again o' h8, hstyle.again o' h9, hchildren.again o' h10,
        hcomponents.again o' h11, hextra', Component.settled, settledComponentSlot_eq, Slot.map_id]
      rfl

theorem faithful_screen : Faithful (.part .screen) Read.screen (Screen.dump .asWritten)
    Screen.settled := by
  intro v x hv hx
  obtain ⟨o, rfl, hfields⟩ := Read.record_eq_ok hx
  simp only [Check.seq_eq_ok, Check.map_eq_ok] at hfields
  obtain ⟨_, ⟨_, ⟨_, ⟨_, ⟨id, hid, rfl⟩, title, htitle, rfl⟩, requiresAuth, hauth, rfl⟩, components,
    hcomponents, rfl⟩, layout, hlayout, rfl⟩ := hfields
  have hid := retold_slot faithful_text solid_str hv hid
  have htitle := retold_slot faithful_text solid_str hv htitle
  have hauth := retold_optional faithful_flag hv (.bool false) hauth
  have hcomponents := retold_slot (faithful_component _).list solid_arr hv hcomponents
  have hlayout := retold_optional faithful_anything hv .null hlayout
  rw [Screen.dump, ofSlot_components]
  refine restated_of_fields hv ?_ fun o' ho' hextra => ?_
  · exact .cons ⟨rfl, hid.toTold⟩ (.cons ⟨rfl, htitle.toTold⟩ (.cons ⟨rfl, hauth.toTold⟩
      (.cons ⟨rfl, hcomponents.toTold⟩ (.cons ⟨rfl, hlayout.toTold⟩ .nil))))
  · simp only [List.forall_mem_cons] at ho'
    obtain ⟨h1, h2, h3, h4, h5, -⟩ := ho'
    have hextra' : extraFields Keys.screen o' = _ := hextra
    simp only [Read.screen, Read.record_obj, hid.again o' h1, htitle.again o' h2, hauth.again o' h3,
      hcomponents.again o' h4, hlayout.again o' h5, hextra', Screen.settled, Slot.map_id,
      Option.map_id]
    rfl

theorem faithful_metadata : Faithful (.part .metadata) Read.metadata (Metadata.dump .asWritten)
    Metadata.settled := by
  intro v x hv hx
  obtain ⟨o, rfl, hfields⟩ := Read.record_eq_ok hx
  simp only [Check.seq_eq_ok, Check.map_eq_ok] at hfields
  obtain ⟨_, ⟨_, ⟨_, ⟨_, ⟨name, hname, rfl⟩, theme, htheme, rfl⟩, tokens, htokens, rfl⟩, schema,
    hschema, rfl⟩, auth, hauth, rfl⟩ := hfields
  have hname := retold_required faithful_text hv hname
  have htheme := retold_slot faithful_theme solid_obj hv htheme
  have htokens := retold_slot faithful_tokenValue.table.free_of_table solid_obj hv htokens
  have hschema := retold_slot faithful_databaseTable.table solid_obj hv hschema
  have hauth := retold_slot faithful_authentication solid_obj hv hauth
  refine restated_of_fields hv ?_ fun o' ho' hextra => ?_
  · exact .cons ⟨rfl, hname.toTold⟩ (.cons ⟨rfl, htheme.toTold⟩ (.cons ⟨rfl, htokens.toTold⟩
      (.cons ⟨rfl, hschema.toTold⟩ (.cons ⟨rfl, hauth.toTold⟩ .nil))))
  · simp only [List.forall_mem_cons] at ho'
    obtain ⟨h1, h2, h3, h4, h5, -⟩ := ho'
    have hextra' : extraFields Keys.metadata o' = _ := hextra
    simp only [Read.metadata, Read.record_obj, hname.again o' h1, htheme.again o' h2,
      htokens.again o' h3, hschema.again o' h4, hauth.again o' h5, hextra', Metadata.settled]
    rfl

/-- A document that was read is restated. -/
theorem faithful_definition : Faithful (.part .definition) Read.definition
    (Definition.dump .asWritten) Definition.settled := by
  intro v x hv hx
  obtain ⟨o, rfl, hfields⟩ := Read.record_eq_ok hx
  simp only [Check.seq_eq_ok, Check.map_eq_ok] at hfields
  obtain ⟨_, ⟨_, ⟨_, ⟨version, hversion, rfl⟩, app, happ, rfl⟩, screens, hscreens, rfl⟩, initial,
    hinitial, rfl⟩ := hfields
  have hversion := retold_required faithful_text hv hversion
  have happ := retold_required faithful_metadata hv happ
  have hscreens := retold_required faithful_screen.table hv hscreens
  have hinitial := retold_required faithful_text hv hinitial
  refine restated_of_fields hv ?_ fun o' ho' hextra => ?_
  · exact .cons ⟨rfl, hversion.toTold⟩ (.cons ⟨rfl, happ.toTold⟩ (.cons ⟨rfl, hscreens.toTold⟩
      (.cons ⟨rfl, hinitial.toTold⟩ .nil)))
  · simp only [List.forall_mem_cons] at ho'
    obtain ⟨h1, h2, h3, h4, -⟩ := ho'
    have hextra' : extraFields Keys.definition o' = _ := hextra
    simp only [Read.definition, Read.record_obj, hversion.again o' h1, happ.again o' h2,
      hscreens.again o' h3, hinitial.again o' h4, hextra', Definition.settled]
    rfl

end Storyboard
