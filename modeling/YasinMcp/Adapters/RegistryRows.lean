import YasinMcp.Adapters.ProjectRegistry
import YasinMcp.Foundation.Outcomes

/-!
# Rows of the registry

The same rows can be given as a list, as a list under a key of a mapping, or by name
under such a key; all of these are listed alike.  Rows that give no name are left out
wherever they are in a list.  What is listed of a row depends on the row alone, so a
listing is the projects of its rows in their order, and a lookup finds the first of them
whose name matches.
-/

namespace YasinMcp

open Foundation Docs

namespace ProjectRegistry

open Yaml

/-!
## Rows in different forms
-/

/-- A name, and fields without a name of their own. -/
structure Row where
  name : String
  fields : Members
  nameless : forall entry, entry ∈ fields -> entry.1.isKey "name" = false

/-- Rows whose names can be the keys of one mapping. -/
structure Rows where
  rows : List Row
  distinct : (rows.map Row.name).Nodup

def Row.entry (row : Row) : Members :=
  (.str "name", .str row.name) :: row.fields

/-- A mapping that has the name and the fields of the row, in any order. -/
def Row.IsEntry (row : Row) (item : Yaml) : Prop :=
  exists members, item = .mapping members ∧
    forall key, lookup members key = lookup row.entry key

def Rows.named (table : Rows) : Members :=
  table.rows.map fun row => (.str row.name, .mapping row.fields)

def IsContainer : Yaml -> Prop
  | .list _ => True
  | .mapping _ => True
  | _ => False

/-- The value is under this key, and no key that is tried before has a list or a mapping. -/
def Leads (members : Members) (key : String) (value : Yaml) : Prop :=
  exists before after, containers = before ++ key :: after ∧ get members key = value ∧
    forall other, other ∈ before -> ¬ IsContainer (get members other)

/-- The forms in which a registry can give these rows. -/
inductive Presents (table : Rows) : Registry -> Prop where
  | list {items : List Yaml} :
      List.Forall₂ Row.IsEntry table.rows items -> Presents table (.list items)
  | listed {members : Members} {key : String} {items : List Yaml} :
      Leads members key (.list items) -> List.Forall₂ Row.IsEntry table.rows items ->
        Presents table (.mapping members)
  | named {members : Members} {key : String} :
      Leads members key (.mapping table.named) -> Presents table (.mapping members)

/-- A row that is not a mapping, or has no text but white space under the keys of a name. -/
def Unusable (item : Yaml) : Prop :=
  forall members, item = .mapping members ->
    forall key, key ∈ nameKeys -> forall s, get members key = .str s -> Text.strip s = ""

/-- The second list is the first with unusable rows put in. -/
inductive Padded : List Yaml -> List Yaml -> Prop where
  | nil : Padded [] []
  | keep {items padded : List Yaml} (item : Yaml) :
      Padded items padded -> Padded (item :: items) (item :: padded)
  | insert {items padded : List Yaml} {item : Yaml} :
      Unusable item -> Padded items padded -> Padded items (item :: padded)

/-- The second registry is the first with unusable rows put into its lists of rows. -/
inductive PaddedRegistry : Registry -> Registry -> Prop where
  | list {items padded : List Yaml} :
      Padded items padded -> PaddedRegistry (.list items) (.list padded)
  | mapping {members members' : Members} :
      (forall key, lookup members key = lookup members' key ∨
        key ∈ containers ∧ exists items padded, Padded items padded ∧
          lookup members key = some (.list items) ∧ lookup members' key = some (.list padded)) ->
        PaddedRegistry (.mapping members) (.mapping members')

def SameOrigin (source source' : Document) : Prop :=
  source.path = source'.path ∧ source.sourceUrl = source'.sourceUrl ∧
    source.evidenceStatus = source'.evidenceStatus

def listing (data : Registry) (source : Document) : Except PyException (List ProjectMetadata) :=
  collectProjects source (extractEntries data) []

section

variable {source source' : Document}

/-!
## What a row depends on
-/

theorem firstString_congr {entry entry' : Members} {keys : List String}
    (h : forall key, key ∈ keys -> get entry key = get entry' key) :
    firstString entry keys = firstString entry' keys := by
  induction keys with
  | nil => rfl
  | cons key rest ih =>
      rw [firstString, firstString, h key List.mem_cons_self,
        ih fun other hother => h other (List.mem_cons_of_mem _ hother)]

theorem stringList_congr {entry entry' : Members} {keys : List String}
    (h : forall key, key ∈ keys -> get entry key = get entry' key) :
    stringList entry keys = stringList entry' keys := by
  induction keys with
  | nil => rfl
  | cons key rest ih =>
      rw [stringList, stringList, h key List.mem_cons_self,
        ih fun other hother => h other (List.mem_cons_of_mem _ hother)]

theorem normalize_congr {entry entry' : Members} (horigin : SameOrigin source source')
    (h : forall key, key ∉ containers -> get entry key = get entry' key) :
    normalize entry source = normalize entry' source' := by
  have hkeys : forall keys : List String, (keys.all fun key => decide (key ∉ containers)) = true ->
      forall key, key ∈ keys -> get entry key = get entry' key := by
    intro keys hkeys key hkey
    exact h key (of_decide_eq_true (List.all_eq_true.mp hkeys key hkey))
  have hstring : forall keys : List String,
      (keys.all fun key => decide (key ∉ containers)) = true ->
        firstString entry keys = firstString entry' keys :=
    fun keys hall => firstString_congr (hkeys keys hall)
  have hlist : forall keys : List String,
      (keys.all fun key => decide (key ∉ containers)) = true ->
        stringList entry keys = stringList entry' keys :=
    fun keys hall => stringList_congr (hkeys keys hall)
  rcases horigin with ⟨hpath, hurl, hevidence⟩
  rw [normalize, normalize, hpath, hurl, hevidence, hstring nameKeys (by decide),
    hstring ["role", "type", "kind"] (by decide),
    hstring ["repository", "repo", "github"] (by decide),
    hstring ["documentation", "docs", "doc"] (by decide), hstring ["status", "state"] (by decide),
    hstring ["owner", "maintainer"] (by decide),
    hstring ["operational_state", "ops_state", "runtime_state"] (by decide),
    hlist ["dependencies", "depends_on", "deps"] (by decide),
    hlist ["public_contracts", "contracts", "apis"] (by decide),
    hlist ["mcp_capabilities", "mcp_tools", "capabilities"] (by decide)]

theorem SameOrigin.refl (source : Document) : SameOrigin source source := ⟨rfl, rfl, rfl⟩

/-- Rows that are normalized alike are listed alike. -/
theorem collectProjects_congr {entries entries' : List Members}
    (h : List.Forall₂ (fun entry entry' => normalize entry source = normalize entry' source')
      entries entries') (results : List ProjectMetadata) :
    collectProjects source entries results = collectProjects source' entries' results := by
  induction h generalizing results with
  | nil => rfl
  | cons hhead _ ih =>
      rw [collectProjects, collectProjects, hhead]
      split
      · exact ih _
      · rw [ih]

/-!
## The same rows in different forms
-/

theorem rowsIn_eq_none {value : Yaml} (h : ¬ IsContainer value) : rowsIn value = none := by
  cases value with
  | list items => exact absurd trivial h
  | mapping members => exact absurd trivial h
  | _ => rfl

theorem extractEntries_of_leads {members : Members} {key : String} {value : Yaml}
    (h : Leads members key value) {rows : List Members} (hrows : rowsIn value = some rows) :
    extractEntries (.mapping members) = rows := by
  rcases h with ⟨before, after, hsplit, hget, hbefore⟩
  have hnone : before.findSome? (fun other => rowsIn (get members other)) = none :=
    List.findSome?_eq_none_iff.mpr fun other hother => rowsIn_eq_none (hbefore other hother)
  have hfound : containers.findSome? (fun other => rowsIn (get members other)) = some rows := by
    rw [hsplit, List.findSome?_append, hnone, Option.none_or, List.findSome?_cons, hget, hrows]
  rw [extractEntries, hfound]

theorem leads_singleton {key : String} (hkey : key ∈ containers) (value : Yaml) :
    Leads [(.str key, value)] key value := by
  rcases List.append_of_mem hkey with ⟨before, after, hsplit⟩
  refine ⟨before, after, hsplit, ?_, ?_⟩
  · simp [Yaml.get, lookup, isKey]
  · intro other hother
    have hne : key ≠ other := by
      intro heq
      have hnodup : containers.Nodup := by decide
      rw [hsplit, List.nodup_append] at hnodup
      exact hnodup.2.2 other hother key List.mem_cons_self heq.symm
    simp [Yaml.get, lookup, isKey, hne, IsContainer]

theorem members_of_isEntry {rows : List Row} {items : List Yaml}
    (h : List.Forall₂ Row.IsEntry rows items) :
    List.Forall₂ (fun (row : Row) entry => forall key, lookup entry key = lookup row.entry key)
      rows (items.filterMap members?) := by
  induction h with
  | nil => exact List.Forall₂.nil
  | cons hhead _ ih =>
      rcases hhead with ⟨members, hitem, hlookup⟩
      subst hitem
      exact List.Forall₂.cons hlookup ih

theorem withName_of_row (row : Row) : withName (.str row.name) row.fields = row.entry := by
  have hkeep : row.fields.filter (fun entry => !entry.1.isKey "name") = row.fields :=
    List.filter_eq_self.mpr fun entry hentry => by rw [row.nameless entry hentry]; rfl
  have hnone : lookup row.fields "name" = none := by
    rw [lookup, List.find?_eq_none.mpr fun entry hentry => by rw [row.nameless entry hentry]; simp]
    rfl
  rw [withName, hkeep, hnone]
  rfl

theorem rowsIn_named (table : Rows) :
    rowsIn (.mapping table.named) = some (table.rows.map Row.entry) := by
  rw [rowsIn, Rows.named, List.filterMap_map]
  congr 1
  rw [← List.filterMap_eq_map]
  congr 1
  funext row
  exact congrArg some (withName_of_row row)

theorem entries_of_presents {table : Rows} {data : Registry} (h : Presents table data) :
    List.Forall₂ (fun (row : Row) entry => forall key, lookup entry key = lookup row.entry key)
      table.rows (extractEntries data) := by
  cases h with
  | list hitems => exact members_of_isEntry hitems
  | listed hleads hitems =>
      rw [extractEntries_of_leads hleads rfl]
      exact members_of_isEntry hitems
  | named hleads =>
      rw [extractEntries_of_leads hleads (rowsIn_named table), List.forall₂_map_right_iff]
      exact List.forall₂_same.mpr fun row _ key => rfl

theorem listing_of_presents {table : Rows} {data : Registry} (h : Presents table data)
    (horigin : SameOrigin source source') :
    listing data source = collectProjects source' (table.rows.map Row.entry) [] := by
  refine collectProjects_congr ?_ []
  rw [List.forall₂_map_right_iff]
  refine (entries_of_presents h).flip.imp fun entry row hlookup => ?_
  refine normalize_congr horigin fun key _ => ?_
  rw [Yaml.get, Yaml.get, hlookup key]

theorem listing_of_origin (horigin : SameOrigin source source') (data : Registry) :
    listing data source = listing data source' :=
  collectProjects_congr (List.forall₂_same.mpr fun _ _ => normalize_congr horigin fun _ _ => rfl) []

/-!
## Rows without a name
-/

theorem firstString_eq_none {entry : Members} {keys : List String}
    (h : forall key, key ∈ keys -> forall s, get entry key = .str s -> Text.strip s = "") :
    firstString entry keys = none := by
  induction keys with
  | nil => rfl
  | cons key rest ih =>
      have hrest := ih fun other hother => h other (List.mem_cons_of_mem _ hother)
      rw [firstString]
      split
      · rename_i s hs
        rw [if_pos (h key List.mem_cons_self s hs), hrest]
      · exact hrest

theorem collectProjects_of_unusable {members : Members} (h : Unusable (.mapping members))
    (rest : List Members) (results : List ProjectMetadata) :
    collectProjects source (members :: rest) results = collectProjects source rest results := by
  have hname : normalize members source =
      .error (validationError "project registry entry is missing a name") := by
    rw [normalize, firstString_eq_none (h members rfl)]
  rw [collectProjects, hname]
  rfl

theorem collectProjects_of_padded {items padded : List Yaml} (h : Padded items padded)
    (results : List ProjectMetadata) :
    collectProjects source (items.filterMap members?) results =
      collectProjects source (padded.filterMap members?) results := by
  induction h generalizing results with
  | nil => rfl
  | keep item _ ih =>
      cases item with
      | mapping members =>
          simp only [List.filterMap_cons, members?, collectProjects, ih]
      | _ => exact ih results
  | @insert items padded item hunusable _ ih =>
      cases item with
      | mapping members =>
          simp only [List.filterMap_cons, members?]
          rw [collectProjects_of_unusable hunusable, ih]
      | _ => exact ih results

/-- Both have no rows, or rows that are listed alike. -/
def RowsAlike (source : Document) (rows rows' : Option (List Members)) : Prop :=
  rows = rows' ∨ exists entries entries', rows = some entries ∧ rows' = some entries' ∧
    forall results, collectProjects source entries results = collectProjects source entries' results

theorem rowsAlike_findSome? {keys : List String} {rows rows' : String -> Option (List Members)}
    (h : forall key, key ∈ keys -> RowsAlike source (rows key) (rows' key)) :
    RowsAlike source (keys.findSome? rows) (keys.findSome? rows') := by
  induction keys with
  | nil => exact Or.inl rfl
  | cons key rest ih =>
      have hrest := ih fun other hother => h other (List.mem_cons_of_mem _ hother)
      rw [List.findSome?_cons, List.findSome?_cons]
      rcases h key List.mem_cons_self with heq | ⟨entries, entries', hrows, hrows', halike⟩
      · rw [heq]
        cases rows' key with
        | none => exact hrest
        | some entries => exact Or.inl rfl
      · rw [hrows, hrows']
        exact Or.inr ⟨entries, entries', rfl, rfl, halike⟩

theorem listing_of_padded {data data' : Registry} (h : PaddedRegistry data data') :
    listing data source = listing data' source := by
  cases h with
  | list hpadded => exact collectProjects_of_padded hpadded []
  | @mapping members members' hmembers =>
      have hrows : RowsAlike source
          (containers.findSome? fun key => rowsIn (get members key))
          (containers.findSome? fun key => rowsIn (get members' key)) := by
        refine rowsAlike_findSome? fun key _ => ?_
        rcases hmembers key with heq | ⟨_, items, padded, hpadded, hlookup, hlookup'⟩
        · rw [Yaml.get, Yaml.get, heq]
          exact Or.inl rfl
        · rw [Yaml.get, Yaml.get, hlookup, hlookup']
          exact Or.inr ⟨_, _, rfl, rfl, collectProjects_of_padded hpadded⟩
      have hother : forall key, key ∉ containers -> lookup members key = lookup members' key := by
        intro key hkey
        rcases hmembers key with heq | ⟨hcontainer, _⟩
        · exact heq
        · exact absurd hcontainer hkey
      have hnames : (nameKeys.any fun key => (lookup members key).isSome) =
          nameKeys.any fun key => (lookup members' key).isSome := by
        have hkeys : forall key, key ∈ nameKeys -> key ∉ containers := by decide
        rw [Bool.eq_iff_iff, List.any_eq_true, List.any_eq_true]
        exact exists_congr fun key => and_congr_right fun hkey => by rw [hother key (hkeys key hkey)]
      rw [listing, listing, extractEntries, extractEntries]
      rcases hrows with heq | ⟨entries, entries', hentries, hentries', halike⟩
      · rw [heq, hnames]
        split
        · rfl
        · split
          · refine collectProjects_congr (List.Forall₂.cons ?_ List.Forall₂.nil) []
            refine normalize_congr (SameOrigin.refl source) fun key hkey => ?_
            rw [Yaml.get, Yaml.get, hother key hkey]
          · rfl
      · rw [hentries, hentries']
        exact halike []

/-!
## A row by itself
-/

def projectOf (path url : String) (status : EvidenceStatus) (entry : Members) :
    Option ProjectMetadata :=
  (normalize entry
    { path := path, content := "", sourceUrl := url, sha := "", evidenceStatus := status }).toOption

theorem projectOf_eq (entry : Members) :
    projectOf source.path source.sourceUrl source.evidenceStatus entry =
      (normalize entry source).toOption :=
  congrArg Except.toOption (normalize_congr ⟨rfl, rfl, rfl⟩ fun _ _ => rfl)

/-- A listing that is returned is the projects of the rows, in their order. -/
theorem eq_filterMap_of_collectProjects {entries : List Members}
    {results projects : List ProjectMetadata}
    (h : collectProjects source entries results = .ok projects) :
    projects = results ++
      entries.filterMap (projectOf source.path source.sourceUrl source.evidenceStatus) := by
  induction entries generalizing results with
  | nil =>
      cases h
      exact (List.append_nil _).symm
  | cons entry rest ih =>
      rw [collectProjects] at h
      rw [List.filterMap_cons, projectOf_eq]
      split at h
      · rename_i project hproject
        rw [ih h, hproject, List.append_assoc]
        rfl
      · rename_i e herror
        split at h
        · rw [ih h, herror]
          rfl
        · cases h

/-!
## Exceptions
-/

def IsOther (e : PyException) : Prop :=
  IsNotFound e = false

theorem raisesOnly_listItem (item : Yaml) : RaisesOnly IsOther (listItem item) := by
  cases item with
  | int n =>
      refine RaisesOnly.bind ?_ fun text => raisesOnly_ok _
      unfold intText
      split
      · exact raisesOnly_error rfl
      · exact raisesOnly_ok _
  | _ => exact raisesOnly_ok _

theorem raisesOnly_stringList (entry : Members) (keys : List String) :
    RaisesOnly IsOther (stringList entry keys) := by
  induction keys with
  | nil => exact raisesOnly_ok []
  | cons key rest ih =>
      rw [stringList]
      split
      · exact (raisesOnly_mapM fun item _ => raisesOnly_listItem item).bind
          fun texts => raisesOnly_ok _
      · split
        · exact ih
        · exact raisesOnly_ok _
      · exact ih

theorem raisesOnly_normalize (entry : Members) : RaisesOnly IsOther (normalize entry source) := by
  unfold normalize
  split
  · exact raisesOnly_error rfl
  · exact (raisesOnly_stringList entry _).bind fun _ =>
      (raisesOnly_stringList entry _).bind fun _ =>
      (raisesOnly_stringList entry _).bind fun _ => raisesOnly_ok _

theorem raisesOnly_collectProjects (entries : List Members) (results : List ProjectMetadata) :
    RaisesOnly IsOther (collectProjects source entries results) := by
  induction entries generalizing results with
  | nil => exact raisesOnly_ok results
  | cons entry rest ih =>
      rw [collectProjects]
      split
      · exact ih _
      · rename_i e herror
        split
        · exact ih results
        · exact raisesOnly_error (raisesOnly_normalize entry e herror)

theorem raisesOnly_parseRegistry (yaml : Option YamlLibrary) (content : String) :
    RaisesOnly IsOther (parseRegistry yaml content) := by
  unfold parseRegistry
  split
  · exact raisesOnly_error rfl
  · split
    · exact raisesOnly_error rfl
    · rename_i e hraw _
      refine raisesOnly_error ?_
      cases e with
      | mcp error => exact absurd trivial hraw
      | _ => rfl
    · exact raisesOnly_error rfl
    · exact raisesOnly_ok _
    · exact raisesOnly_ok _
    · exact raisesOnly_error rfl

end

end ProjectRegistry

open ProjectRegistry

namespace ProjectRegistryAdapter

/-- Some run loads the registry from the document, and ends with this listing. -/
def Lists (py : Builtins) (yaml : Option YamlLibrary) (adapter : ProjectRegistryAdapter)
    (data : Registry) (source : Document) (result : Except PyException (List ProjectMetadata)) :
    Prop :=
  exists trace, Program.Emits (adapter.loadRegistry py yaml) trace (.pure (data, source)) ∧
    Program.Emits (adapter.listProjects py yaml) trace (.ofExcept result)

section

variable {py : Builtins} {yaml : Option YamlLibrary} {adapter : ProjectRegistryAdapter}
  {unicode : UnicodeData} {name : String}

theorem emits_listProjects {trace : List (Program.Event UpstreamAnswer)}
    {result : Except PyException (List ProjectMetadata)}
    (h : Program.Emits (adapter.listProjects py yaml) trace (.ofExcept result)) :
    (exists e, Program.Emits (adapter.loadRegistry py yaml) trace (.raise e) ∧
      result = .error e) ∨
    exists data source,
      Program.Emits (adapter.loadRegistry py yaml) trace (.pure (data, source)) ∧
        result = listing data source := by
  rcases Program.emits_bind_ended h with hraised | ⟨first, second, loaded, htrace, hload, hlist⟩
  · exact Or.inl hraised
  · rcases Program.emits_ofExcept_ended hlist with ⟨hnil, hresult⟩
    rw [hnil, List.append_nil] at htrace
    subst htrace
    exact Or.inr ⟨loaded.1, loaded.2, hload, hresult⟩

theorem eq_listing_of_lists {data : Registry} {source : Document}
    {result : Except PyException (List ProjectMetadata)}
    (h : adapter.Lists py yaml data source result) : result = listing data source := by
  rcases h with ⟨trace, hload, hlist⟩
  rcases emits_listProjects hlist with ⟨e, hraised, _⟩ | ⟨data', source', hload', hresult⟩
  · exact absurd hraised (Program.not_emits_raise_of_pure hload)
  · cases Program.emits_pure_unique hload hload'
    exact hresult

theorem lists_listing {trace : List (Program.Event UpstreamAnswer)} {data : Registry}
    {source : Document}
    (h : Program.Emits (adapter.loadRegistry py yaml) trace (.pure (data, source))) :
    adapter.Lists py yaml data source (listing data source) :=
  ⟨trace, h, h.bind_left _⟩

theorem emits_loadFirst {path : String} {rest : List String} (payload : Value)
    {document : Document} {data : Registry}
    (haccepted : YasinDocsAdapter.validatePath path = .ok ())
    (hread : YasinDocsAdapter.readDocument py path payload = .ok document)
    (hparse : parseRegistry yaml document.content = .ok data) :
    Program.Emits (adapter.loadFirst py yaml (path :: rest))
      [⟨YasinDocsAdapter.documentRequest adapter.docs path, .ok payload⟩]
      (.pure (data, document)) := by
  have hget : Program.Emits (adapter.docs.getDoc py path)
      [⟨YasinDocsAdapter.documentRequest adapter.docs path, .ok payload⟩] (.pure document) := by
    rw [YasinDocsAdapter.getDoc_of_accepted haccepted]
    refine Program.Emits.perform ?_
    rw [ok_bind, hread]
    exact Program.Emits.refl _
  have hparsed : (do
      let data ← .ofExcept (parseRegistry yaml document.content)
      .pure (data, document) : Fetch (Registry × Document)) = .pure (data, document) := by
    rw [hparse]
    rfl
  have htry : Program.Emits (adapter.tryDoc py path)
      [⟨YasinDocsAdapter.documentRequest adapter.docs path, .ok payload⟩]
      (.pure (some document)) :=
    (hget.bind_left fun found => .pure (some found)).rescue _
  rw [← hparsed]
  exact htry.bind_left _

theorem isOther_of_tryDoc {path : String} {trace : List (Program.Event UpstreamAnswer)}
    {e : PyException} (h : Program.Emits (adapter.tryDoc py path) trace (.raise e)) :
    IsOther e := by
  rcases Program.emits_rescue_ended (show Program.Emits (adapter.tryDoc py path) trace
    (.ofExcept (.error e)) from h) with ⟨value, _, hreturned⟩ | ⟨first, second, raised, _, _, hhandler⟩
  · cases hreturned
  · by_cases hmissing : IsNotFound raised = true
    · rw [if_pos hmissing] at hhandler
      cases hhandler
    · rw [if_neg hmissing] at hhandler
      cases hhandler
      exact Bool.eq_false_iff.mpr hmissing

/-- Looking for the registry passes over what is not found, and nothing else raises that. -/
theorem isOther_of_loadFirst {paths : List String} {trace : List (Program.Event UpstreamAnswer)}
    {e : PyException}
    (h : Program.Emits (adapter.loadFirst py yaml paths) trace (.raise e)) : IsOther e := by
  induction paths generalizing trace with
  | nil =>
      cases h
      rfl
  | cons path rest ih =>
      rcases Program.emits_bind_ended (show Program.Emits
        (adapter.loadFirst py yaml (path :: rest)) trace (.ofExcept (.error e)) from h) with
        ⟨raised, hraised, hresult⟩ | ⟨first, second, found, _, _, hsecond⟩
      · cases hresult
        exact isOther_of_tryDoc hraised
      · cases found with
        | none => exact ih hsecond
        | some document =>
            rcases Program.emits_bind_ended hsecond with
              ⟨raised, hraised, hresult⟩ | ⟨_, _, data, _, _, hpure⟩
            · cases hresult
              have hparse := (Program.emits_ofExcept_ended
                (show Program.Emits _ second (.ofExcept (.error e)) from hraised)).2
              exact raisesOnly_parseRegistry yaml document.content e hparse.symm
            · cases hpure

theorem isOther_of_listProjects {trace : List (Program.Event UpstreamAnswer)} {e : PyException}
    (h : Program.Emits (adapter.listProjects py yaml) trace (.raise e)) : IsOther e := by
  rcases emits_listProjects (show Program.Emits (adapter.listProjects py yaml) trace
    (.ofExcept (.error e)) from h) with ⟨raised, hraised, hresult⟩ | ⟨data, source, _, hresult⟩
  · cases hresult
    exact isOther_of_loadFirst hraised
  · exact raisesOnly_collectProjects _ _ e hresult.symm

/-!
## One project
-/

def HasName (unicode : UnicodeData) (name : String) (project : ProjectMetadata) : Prop :=
  unicode.casefold project.name = unicode.casefold (Text.strip name)

def firstNamed (unicode : UnicodeData) (name : String) (projects : List ProjectMetadata) :
    Option ProjectMetadata :=
  projects.find? fun project =>
    decide (unicode.casefold project.name = unicode.casefold (Text.strip name))

theorem firstNamed_eq_some_iff {projects : List ProjectMetadata} {project : ProjectMetadata} :
    firstNamed unicode name projects = some project <->
      exists before after, projects = before ++ project :: after ∧
        HasName unicode name project ∧
        forall other, other ∈ before -> ¬ HasName unicode name other := by
  rw [firstNamed, List.find?_eq_some_iff_append]
  simp only [HasName, decide_eq_true_eq, Bool.not_eq_true', decide_eq_false_iff_not]
  constructor
  · intro h
    rcases h with ⟨hname, before, after, hsplit, hbefore⟩
    exact ⟨before, after, hsplit, hname, hbefore⟩
  · intro h
    rcases h with ⟨before, after, hsplit, hname, hbefore⟩
    exact ⟨hname, before, after, hsplit, hbefore⟩

theorem firstNamed_eq_none_iff {projects : List ProjectMetadata} :
    firstNamed unicode name projects = none <->
      forall project, project ∈ projects -> ¬ HasName unicode name project := by
  simp [firstNamed, HasName]

theorem emits_getProject (hname : Text.strip name ≠ "")
    {trace : List (Program.Event UpstreamAnswer)} {result : Except PyException ProjectMetadata}
    (h : Program.Emits (adapter.getProject py yaml unicode name) trace (.ofExcept result)) :
    (exists e, Program.Emits (adapter.listProjects py yaml) trace (.raise e) ∧
      result = .error e) ∨
    exists projects,
      Program.Emits (adapter.listProjects py yaml) trace (.pure projects) ∧
        ((exists project, firstNamed unicode name projects = some project ∧
          result = .ok project) ∨
        firstNamed unicode name projects = none ∧
          exists e, IsNotFound e = true ∧ result = .error e) := by
  simp only [getProject, if_neg (unicode.casefold_ne_empty hname)] at h
  rcases Program.emits_bind_ended h with hraised | ⟨first, second, projects, htrace, hlist, hfound⟩
  · exact Or.inl hraised
  · have hended : second = [] ∧ ((exists project, firstNamed unicode name projects = some project ∧
        result = .ok project) ∨ firstNamed unicode name projects = none ∧
          exists e, IsNotFound e = true ∧ result = .error e) := by
      split at hfound
      · rename_i project hproject
        rcases Program.emits_ofExcept_ended (show Program.Emits (.ofExcept (.ok project)) second
          (.ofExcept result) from hfound) with ⟨hnil, hresult⟩
        exact ⟨hnil, Or.inl ⟨project, hproject, hresult⟩⟩
      · rename_i hnone
        rcases Program.emits_ofExcept_ended (show Program.Emits (.ofExcept (.error _)) second
          (.ofExcept result) from hfound) with ⟨hnil, hresult⟩
        exact ⟨hnil, Or.inr ⟨hnone, _, rfl, hresult⟩⟩
    rw [hended.1, List.append_nil] at htrace
    subst htrace
    exact Or.inr ⟨projects, hlist, hended.2⟩

theorem getProject_ok_iff (hname : Text.strip name ≠ "")
    {trace : List (Program.Event UpstreamAnswer)} {result : Except PyException ProjectMetadata}
    (h : Program.Emits (adapter.getProject py yaml unicode name) trace (.ofExcept result))
    (project : ProjectMetadata) :
    result = .ok project <->
      exists before after,
        Program.Emits (adapter.listProjects py yaml) trace
          (.pure (before ++ project :: after)) ∧
        HasName unicode name project ∧
        forall other, other ∈ before -> ¬ HasName unicode name other := by
  constructor
  · intro hproject
    subst hproject
    rcases emits_getProject hname h with ⟨e, _, hresult⟩ | ⟨projects, hlist, hfound⟩
    · cases hresult
    · rcases hfound with ⟨found, hfirst, hresult⟩ | ⟨_, e, _, hresult⟩
      · cases hresult
        rcases firstNamed_eq_some_iff.mp hfirst with ⟨before, after, hsplit, hhas, hbefore⟩
        subst hsplit
        exact ⟨before, after, hlist, hhas, hbefore⟩
      · cases hresult
  · intro hsplit
    rcases hsplit with ⟨before, after, hlist', hhas, hbefore⟩
    have hfirst' := firstNamed_eq_some_iff.mpr ⟨before, after, rfl, hhas, hbefore⟩
    rcases emits_getProject hname h with ⟨e, hraised, _⟩ | ⟨projects, hlist, hfound⟩
    · exact absurd hraised (Program.not_emits_raise_of_pure hlist')
    · cases Program.emits_pure_unique hlist hlist'
      rw [hfirst'] at hfound
      rcases hfound with ⟨found, hfirst, hresult⟩ | ⟨hnone, _⟩
      · cases hfirst
        exact hresult
      · cases hnone

theorem getProject_notFound_iff (hname : Text.strip name ≠ "")
    {trace : List (Program.Event UpstreamAnswer)} {result : Except PyException ProjectMetadata}
    (h : Program.Emits (adapter.getProject py yaml unicode name) trace (.ofExcept result)) :
    (exists e, result = .error e ∧ IsNotFound e = true) <->
      exists projects, Program.Emits (adapter.listProjects py yaml) trace (.pure projects) ∧
        forall project, project ∈ projects -> ¬ HasName unicode name project := by
  constructor
  · intro hmissing
    rcases hmissing with ⟨e, hresult, hmissing⟩
    subst hresult
    rcases emits_getProject hname h with ⟨raised, hraised, hresult⟩ | ⟨projects, hlist, hfound⟩
    · cases hresult
      rw [isOther_of_listProjects hraised] at hmissing
      cases hmissing
    · rcases hfound with ⟨project, _, hresult⟩ | ⟨hnone, _⟩
      · cases hresult
      · exact ⟨projects, hlist, firstNamed_eq_none_iff.mp hnone⟩
  · intro hnone
    rcases hnone with ⟨projects', hlist', hnone⟩
    rcases emits_getProject hname h with ⟨e, hraised, _⟩ | ⟨projects, hlist, hfound⟩
    · exact absurd hraised (Program.not_emits_raise_of_pure hlist')
    · cases Program.emits_pure_unique hlist hlist'
      rw [firstNamed_eq_none_iff.mpr hnone] at hfound
      rcases hfound with ⟨project, hfirst, _⟩ | ⟨_, e, hmissing, hresult⟩
      · cases hfirst
      · exact ⟨e, hresult, hmissing⟩

end

/--
The forms of the same rows are listed alike, unusable rows change nothing, each project
is made of its own row, and a lookup finds the first project of the name.
-/
theorem rows_exact (py : Builtins) (yaml : Option YamlLibrary) (unicode : UnicodeData)
    (adapter : ProjectRegistryAdapter) :
    (forall table data data' source source' result result',
      Presents table data -> Presents table data' -> SameOrigin source source' ->
        adapter.Lists py yaml data source result -> adapter.Lists py yaml data' source' result' ->
          result = result') ∧
    (forall data data' source source' result result',
      PaddedRegistry data data' -> SameOrigin source source' ->
        adapter.Lists py yaml data source result -> adapter.Lists py yaml data' source' result' ->
          result = result') ∧
    (exists project? : String -> String -> EvidenceStatus -> Yaml.Members -> Option ProjectMetadata,
      forall data source projects, adapter.Lists py yaml data source (.ok projects) ->
        projects = (extractEntries data).filterMap
          (project? source.path source.sourceUrl source.evidenceStatus)) ∧
    forall name trace result, Text.strip name ≠ "" ->
      Program.Emits (adapter.getProject py yaml unicode name) trace (.ofExcept result) ->
        (forall project, result = .ok project <->
          exists before after,
            Program.Emits (adapter.listProjects py yaml) trace
              (.pure (before ++ project :: after)) ∧
            HasName unicode name project ∧
            forall other, other ∈ before -> ¬ HasName unicode name other) ∧
        ((exists e, result = .error e ∧ IsNotFound e = true) <->
          exists projects, Program.Emits (adapter.listProjects py yaml) trace (.pure projects) ∧
            forall project, project ∈ projects -> ¬ HasName unicode name project) := by
  refine ⟨?_, ?_, ⟨projectOf, ?_⟩, ?_⟩
  · intro table data data' source source' result result' hdata hdata' horigin hlists hlists'
    rw [eq_listing_of_lists hlists, eq_listing_of_lists hlists', listing_of_presents hdata horigin,
      listing_of_presents hdata' (SameOrigin.refl source')]
  · intro data data' source source' result result' hpadded horigin hlists hlists'
    rw [eq_listing_of_lists hlists, eq_listing_of_lists hlists', listing_of_origin horigin data,
      listing_of_padded hpadded]
  · intro data source projects hlists
    exact eq_filterMap_of_collectProjects (eq_listing_of_lists hlists).symm
  · intro name trace result hname h
    exact ⟨getProject_ok_iff hname h, getProject_notFound_iff hname h⟩

def registryFile (encoded : String) : Value :=
  .dict [("type", .str "file"), ("content", .str encoded)]

def registryDocument (content : String) : Document where
  path := "docs/projects/PROJECT_REGISTRY.yaml"
  content := content
  sourceUrl := ""
  sha := ""
  evidenceStatus := .confirmed

def listText : String :=
  "- name: Yasin-Hub\n  kind: hub\n  deps: [Yasin-Core]\n- name: Yasin-Core\n" ++
    "  state: stable\n"

def listedText : String :=
  "repositories:\n- name: Yasin-Hub\n  kind: hub\n  deps: [Yasin-Core]\n" ++
    "- name: Yasin-Core\n  state: stable\n"

def namedText : String :=
  "items:\n  Yasin-Hub:\n    kind: hub\n    deps: [Yasin-Core]\n  Yasin-Core:\n" ++
    "    state: stable\n"

def paddedText : String :=
  "- name: Yasin-Hub\n  kind: hub\n  deps: [Yasin-Core]\n- 42\n- kind: hub\n" ++
    "- name: Yasin-Core\n  state: stable\n"

def hubRow : Row where
  name := "Yasin-Hub"
  fields := [(.str "kind", .str "hub"), (.str "deps", .list [.str "Yasin-Core"])]
  nameless := by simp [Yaml.isKey]

def coreRow : Row where
  name := "Yasin-Core"
  fields := [(.str "state", .str "stable")]
  nameless := by simp [Yaml.isKey]

def sampleTable : Rows where
  rows := [hubRow, coreRow]
  distinct := by decide

def sampleItems : List Yaml :=
  sampleTable.rows.map fun row => .mapping row.entry

def paddedItems : List Yaml :=
  [.mapping hubRow.entry, .int 42, .mapping [(.str "kind", .str "hub")], .mapping coreRow.entry]

def sampleLibrary : YamlLibrary where
  safeLoad content :=
    if content = listText then .ok (.list sampleItems)
    else if content = listedText then .ok (.mapping [(.str "repositories", .list sampleItems)])
    else if content = namedText then
      .ok (.mapping [(.str "items", .mapping sampleTable.named)])
    else if content = paddedText then .ok (.list paddedItems)
    else .error .yamlError

def sampleProject (name : String) (role status : Option String) (dependencies : List String) :
    ProjectMetadata where
  name := name
  role := role
  repository := none
  documentation := none
  status := status
  owner := none
  dependencies := dependencies
  publicContracts := []
  operationalState := none
  mcpCapabilities := []
  sourcePath := "docs/projects/PROJECT_REGISTRY.yaml"
  sourceUrl := ""
  evidenceStatus := .confirmed

def hubProject : ProjectMetadata := sampleProject "Yasin-Hub" (some "hub") none ["Yasin-Core"]

def coreProject : ProjectMetadata := sampleProject "Yasin-Core" none (some "stable") []

theorem lists_sample (encoded : String) {content : String} {data : Registry}
    (hread : YasinDocsAdapter.readDocument plainBuiltins "docs/projects/PROJECT_REGISTRY.yaml"
      (registryFile encoded) = .ok (registryDocument content))
    (hparse : parseRegistry (some sampleLibrary) content = .ok data) :
    Lists plainBuiltins (some sampleLibrary) ⟨YasinDocsAdapter.withDefaults⟩ data
      (registryDocument content) (listing data (registryDocument content)) :=
  lists_listing (emits_loadFirst (registryFile encoded) (by decide) hread hparse)

theorem isEntry_sampleItems : List.Forall₂ Row.IsEntry sampleTable.rows sampleItems :=
  .cons ⟨_, rfl, fun _ => rfl⟩ (.cons ⟨_, rfl, fun _ => rfl⟩ .nil)

theorem padded_paddedItems : Padded sampleItems paddedItems := by
  refine .keep _ (.insert ?_ (.insert ?_ (.keep _ .nil)))
  · intro members hmembers
    cases hmembers
  · intro members hmembers key hkey s hs
    cases hmembers
    simp only [nameKeys, List.mem_cons, List.not_mem_nil, or_false] at hkey
    rcases hkey with hkey | hkey | hkey <;> subst hkey <;> cases hs

/-- Two rows with fields in all forms and with rows put between them, and a lookup. -/
theorem rows_exact_table :
    let lists := Lists plainBuiltins (some sampleLibrary) ⟨YasinDocsAdapter.withDefaults⟩
    let projects := [hubProject, coreProject]
    lists (.list sampleItems) (registryDocument listText) (.ok projects) ∧
      lists (.mapping [(.str "repositories", .list sampleItems)]) (registryDocument listedText)
        (.ok projects) ∧
      lists (.mapping [(.str "items", .mapping sampleTable.named)]) (registryDocument namedText)
        (.ok projects) ∧
      lists (.list paddedItems) (registryDocument paddedText) (.ok projects) ∧
      exists trace before after,
        Program.Emits (getProject plainBuiltins (some sampleLibrary)
          ⟨YasinDocsAdapter.withDefaults⟩ plainUnicode " yasin-CORE ") trace
            (.ofExcept (.ok coreProject)) ∧
        Program.Emits (listProjects plainBuiltins (some sampleLibrary)
          ⟨YasinDocsAdapter.withDefaults⟩) trace (.pure (before ++ coreProject :: after)) ∧
        HasName plainUnicode " yasin-CORE " coreProject := by
  intro lists projects
  have hlist : lists (.list sampleItems) (registryDocument listText) _ :=
    lists_sample
      ("LSBuYW1lOiBZYXNpbi1IdWIKICBraW5kOiBodWIKICBkZXBzOiBbWWFzaW4tQ29yZV0KLSBuYW1lOiBZ" ++
        "YXNpbi1Db3JlCiAgc3RhdGU6IHN0YWJsZQo=")
      (by decide +kernel) rfl
  have hlisted : lists (.mapping [(.str "repositories", .list sampleItems)])
      (registryDocument listedText) _ :=
    lists_sample
      ("cmVwb3NpdG9yaWVzOgotIG5hbWU6IFlhc2luLUh1YgogIGtpbmQ6IGh1YgogIGRlcHM6IFtZYXNpbi1D" ++
        "b3JlXQotIG5hbWU6IFlhc2luLUNvcmUKICBzdGF0ZTogc3RhYmxlCg==")
      (by decide +kernel) rfl
  have hnamed : lists (.mapping [(.str "items", .mapping sampleTable.named)])
      (registryDocument namedText) _ :=
    lists_sample
      ("aXRlbXM6CiAgWWFzaW4tSHViOgogICAga2luZDogaHViCiAgICBkZXBzOiBbWWFzaW4tQ29yZV0KICBZ" ++
        "YXNpbi1Db3JlOgogICAgc3RhdGU6IHN0YWJsZQo=")
      (by decide +kernel) rfl
  have hpadded : lists (.list paddedItems) (registryDocument paddedText) _ :=
    lists_sample
      ("LSBuYW1lOiBZYXNpbi1IdWIKICBraW5kOiBodWIKICBkZXBzOiBbWWFzaW4tQ29yZV0KLSA0MgotIGtp" ++
        "bmQ6IGh1YgotIG5hbWU6IFlhc2luLUNvcmUKICBzdGF0ZTogc3RhYmxlCg==")
      (by decide +kernel) rfl
  have hprojects : listing (.list sampleItems) (registryDocument listText) =
      .ok [hubProject, coreProject] := by
    decide +kernel
  rw [hprojects] at hlist
  rcases rows_exact plainBuiltins (some sampleLibrary) plainUnicode
    ⟨YasinDocsAdapter.withDefaults⟩ with ⟨hforms, hrows, _, hlookup⟩
  have hentries := isEntry_sampleItems
  have horigin : forall content,
      SameOrigin (registryDocument listText) (registryDocument content) :=
    fun _ => ⟨rfl, rfl, rfl⟩
  have hsameListed := hforms sampleTable _ _ _ _ _ _ (.list hentries)
    (.listed (leads_singleton (show "repositories" ∈ containers by decide) _) hentries)
    (horigin _) hlist hlisted
  have hsameNamed := hforms sampleTable _ _ _ _ _ _ (.list hentries)
    (.named (leads_singleton (show "items" ∈ containers by decide) _)) (horigin _) hlist hnamed
  have hsamePadded := hrows _ _ _ _ _ _ (.list padded_paddedItems) (horigin _) hlist
    hpadded
  rw [← hsameListed] at hlisted
  rw [← hsameNamed] at hnamed
  rw [← hsamePadded] at hpadded
  rcases hlist with ⟨trace, hload, hemits⟩
  have hname : ¬ plainUnicode.casefold (Text.strip " yasin-CORE ") = "" := by decide +kernel
  have hfound : [hubProject, coreProject].find? (fun project => decide
      (plainUnicode.casefold project.name =
        plainUnicode.casefold (Text.strip " yasin-CORE "))) = some coreProject := by
    decide +kernel
  have hget : Program.Emits (getProject plainBuiltins (some sampleLibrary)
      ⟨YasinDocsAdapter.withDefaults⟩ plainUnicode " yasin-CORE ") trace
        (.ofExcept (.ok coreProject)) := by
    rw [getProject]
    simp only [if_neg hname]
    apply Program.Emits.bind_of_pure hemits
    simp only [hfound]
    rfl
  rcases ((hlookup " yasin-CORE " trace _ (by decide) hget).1 coreProject).mp rfl with
    ⟨before, after, hlisting, hhas, _⟩
  exact ⟨⟨trace, hload, hemits⟩, hlisted, hnamed, hpadded, trace, before, after, hget, hlisting,
    hhas⟩

end ProjectRegistryAdapter

end YasinMcp
