import YasinMcp.Adapters.DocsTree
import YasinMcp.Adapters.GitHubShapes
import YasinMcp.Foundation.Outcomes

/-!
# Shapes of the answers about the documentation

The tree and its items are gone into as they come, and so are the members of a document;
only the kind of a document, its content and its size are looked at.  A tree is read when
it can be gone over and the items that are looked at have their shape: those before the
adapter has as many documents as it takes.

Every operation is made of readings of the tree and of documents.  How it ends is decided
by the answers alone.
-/

namespace YasinMcp

open Foundation Docs

namespace YasinDocsAdapter

/-!
## Items
-/

def itemSize (py : Builtins) (unicode : UnicodeData) (item : Value) : Except PyException Int := do
  let found ← member item "size" (.int 0)
  (found.orElse (.int 0)).toInt py unicode

def IsBlob (item : Value) : Prop :=
  item.get "type" = .ok (some (.str "blob"))

/-- A document whose size is an integer, with a text to show for the rest if it is kept. -/
def IsDocumentItemShape (py : Builtins) (unicode : UnicodeData) (item : Value) : Prop :=
  MemberIs item "size" (fun size => size.truthy = true -> IsIntable unicode size) ∧
    forall size, itemSize py unicode item = .ok size -> size ≤ maxDocumentBytes ->
      HasTexts item ["sha", "url"]

/-- An item is looked at for its kind, then its path, then the rest. -/
def IsItemShape (py : Builtins) (unicode : UnicodeData) (item : Value) : Prop :=
  IsDict item ∧
    (IsBlob item -> MemberIs item "path" IsStrable ∧
      forall path, memberText py item "path" = .ok path -> isTextDocument path = true ->
        IsDocumentItemShape py unicode item)

def returnsSome {a : Type} (x : Except PyException a) (p : a -> Bool) : Bool :=
  match x with
  | .ok value => p value
  | .error _ => false

def isListed (py : Builtins) (unicode : UnicodeData) (item : Value) : Bool :=
  returnsSome (item.get "type") (fun kind => decide (kind = some (.str "blob"))) &&
    returnsSome (memberText py item "path") isTextDocument &&
    returnsSome (itemSize py unicode item) fun size => decide (size ≤ maxDocumentBytes)

/-- The items have their shape, as long as there are fewer documents than the adapter takes. -/
def ItemsFit (py : Builtins) (unicode : UnicodeData) (adapter : YasinDocsAdapter)
    (items : List Value) : Prop :=
  forall before item after, items = before ++ item :: after ->
    (before.countP (isListed py unicode) : Int) < adapter.maxFiles -> IsItemShape py unicode item

/-- A tree that is not marked as truncated is gone over. -/
def IsTreeShape (py : Builtins) (unicode : UnicodeData) (adapter : YasinDocsAdapter)
    (payload : Value) : Prop :=
  IsDict payload ∧
    (memberTrue payload "truncated" = .ok false -> MemberIs payload "tree" IsIterable ∧
      forall tree items, member payload "tree" (.list []) = .ok tree -> tree.items = .ok items ->
        ItemsFit py unicode adapter items)

/-- What is shown of a document whose content is read. -/
def IsContentsShape (payload : Value) : Prop :=
  IsDict payload ∧
    forall encoded content, payload.get "type" = .ok (some (.str "file")) ->
      payload.get "content" = .ok (some (.str encoded)) -> decodeContent encoded = .ok content ->
      content.utf8ByteSize ≤ maxDocumentBytes -> HasTexts payload ["html_url", "sha"]

open Classical in
/-- What an answer to the request has to be. -/
noncomputable def AnswerShape (adapter : YasinDocsAdapter) (py : Builtins) (unicode : UnicodeData)
    (request : UpstreamRequest) : Value -> Prop :=
  if request = adapter.treesRequest then IsTreeShape py unicode adapter else IsContentsShape

section

variable {py : Builtins} {unicode : UnicodeData} {adapter : YasinDocsAdapter}

theorem readItem_eq (item : Value) :
    readItem py unicode item = (do
      let kind ← item.get "type"
      if kind ≠ some (.str "blob") then .ok none
      else do
        let path ← memberText py item "path"
        if !isTextDocument path then .ok none
        else do
          let size ← itemSize py unicode item
          if (maxDocumentBytes : Int) < size then .ok none
          else do
            let sha ← memberText py item "sha"
            let url ← memberText py item "url"
            .ok (some { path := path, sha := sha, size := size, url := url })) := by
  cases item <;> rfl

theorem checks_itemSize (item : Value) :
    Checks (itemSize py unicode item)
      (IsDict item ∧
        MemberIs item "size" fun size => size.truthy = true -> IsIntable unicode size) := by
  refine ((checks_member item "size" (.int 0)).bind_value fun found _ =>
    checks_toInt py unicode (found.orElse (.int 0))).congr (and_congr_right fun hdict => ?_)
  rw [← forall_member_iff (p := fun size => size.truthy = true -> IsIntable unicode size) hdict
    (show (Value.int 0).truthy = true -> IsIntable unicode (.int 0) from fun _ => trivial)]
  refine forall₂_congr fun found _ => ?_
  cases htruthy : found.truthy with
  | true => simp [Value.orElse, htruthy]
  | false => simp [Value.orElse, htruthy, IsIntable]

theorem checks_readItem (item : Value) :
    Checks (readItem py unicode item) (IsItemShape py unicode item) := by
  rw [readItem_eq]
  refine ((checks_get item "type").bind_value fun kind _ => checks_skip fun _ =>
    (checks_memberText item "path" "").bind_value fun path _ => checks_skip fun _ =>
    (checks_itemSize item).bind_value fun size _ => checks_skip fun _ =>
    (checks_memberText item "sha" "").bind fun _ _ =>
    (checks_memberText item "url" "").bind fun _ _ => checks_ok _).congr ?_
  refine and_congr_right fun hdict => ?_
  rcases (checks_get item "type").returns hdict with ⟨kind, hkind⟩
  simp only [IsBlob, IsDocumentItemShape, HasTexts, hkind, hdict, Except.ok.injEq, forall_eq',
    List.forall_mem_cons, List.not_mem_nil, not_not, not_lt, Bool.not_eq_true', Bool.not_eq_false,
    true_and, and_true, false_imp_iff, implies_true]

theorem isSome_of_readItem {item : Value} {found : Option DocumentRef}
    (h : readItem py unicode item = .ok found) : found.isSome = isListed py unicode item := by
  rw [readItem_eq] at h
  rcases bind_eq_ok h with ⟨kind, hkind, h⟩
  rw [isListed, hkind]
  split at h
  · rename_i hother
    cases h
    simp [returnsSome, hother]
  · rename_i hblob
    rcases bind_eq_ok h with ⟨path, hpath, h⟩
    rw [hpath]
    split at h
    · rename_i hbinary
      cases h
      simp [returnsSome, Bool.not_eq_true' _ ▸ hbinary]
    · rename_i htext
      rcases bind_eq_ok h with ⟨size, hsize, h⟩
      rw [hsize]
      split at h
      · rename_i hlarge
        cases h
        simp [returnsSome, Int.not_le.mpr hlarge]
      · rename_i hsmall
        rcases bind_eq_ok h with ⟨sha, _, h⟩
        rcases bind_eq_ok h with ⟨url, _, h⟩
        cases h
        simp_all [returnsSome]

/-!
## The tree
-/

theorem forall_before_cons_iff {a : Type} {p : a -> Bool} {q : a -> Prop} {first : a}
    {rest : List a} {n : Nat} {m : Int} :
    (forall before item after, first :: rest = before ++ item :: after ->
      (n + before.countP p : Int) < m -> q item) <->
      ((n : Int) < m -> q first) ∧
        forall before item after, rest = before ++ item :: after ->
          ((n + (if p first then 1 else 0) : Nat) + before.countP p : Int) < m -> q item := by
  constructor
  · intro h
    refine ⟨fun hn => h [] first rest rfl (by simpa using hn), ?_⟩
    intro before item after hrest hcount
    refine h (first :: before) item after (by rw [hrest]; rfl) ?_
    rw [List.countP_cons]
    push_cast at hcount ⊢
    omega
  · intro h before item after hitems hcount
    cases before with
    | nil =>
        rw [List.nil_append, List.cons.injEq] at hitems
        rw [← hitems.1]
        exact h.1 (by simpa using hcount)
    | cons other before =>
        rw [List.cons_append, List.cons.injEq] at hitems
        refine h.2 before item after hitems.2 ?_
        rw [← hitems.1, List.countP_cons] at hcount
        push_cast at hcount ⊢
        omega

theorem checks_collect (items : List Value) (refs : List DocumentRef)
    (hrefs : (refs.length : Int) < adapter.maxFiles) :
    Checks (collect py unicode adapter items refs)
      (forall before item after, items = before ++ item :: after ->
        (refs.length + before.countP (isListed py unicode) : Int) < adapter.maxFiles ->
          IsItemShape py unicode item) := by
  induction items generalizing refs with
  | nil =>
      refine (checks_ok refs).congr (iff_of_true trivial ?_)
      intro before item after hitems
      simp at hitems
  | cons item rest ih =>
      refine ((checks_readItem item).bind fun found hfound => ?_).congr
        (forall_before_cons_iff.trans (and_congr_left' (forall_prop_of_true hrefs))).symm
      have hlisted := isSome_of_readItem hfound
      cases found with
      | none =>
          rw [← hlisted]
          exact ih refs hrefs
      | some ref =>
          rw [← hlisted]
          simp only [Option.isSome_some, if_true]
          by_cases hfull : adapter.maxFiles ≤ (refs ++ [ref]).length
          · rw [if_pos hfull]
            refine (checks_ok _).congr (iff_of_true trivial ?_)
            intro before other after _ hcount
            rw [List.length_append] at hfull
            simp at hfull
            omega
          · rw [if_neg hfull]
            refine (ih (refs ++ [ref]) (Int.not_le.mp hfull)).congr ?_
            rw [List.length_append, List.length_singleton]

theorem readTree_eq (payload : Value) :
    readTree py unicode adapter payload = (do
      let truncated ← memberTrue payload "truncated"
      if truncated then .error (upstreamError "YASIN-DOCS tree response was truncated")
      else do
        let tree ← member payload "tree" (.list [])
        let items ← tree.items
        let refs ← collect py unicode adapter items []
        .ok (sortByPath refs)) := by
  cases payload with
  | dict entries =>
      simp only [readTree, memberTrue, member, Value.get, ok_bind]
      cases Dict.lookupIn (Key.str "truncated") entries <;> rfl
  | _ => rfl

theorem answersFor_readTree_iff (payload : Value) :
    AnswersFor (readTree py unicode adapter payload) <->
      IsTreeShape py unicode adapter payload := by
  have hread : Checks
      (do
        let tree ← member payload "tree" (.list [])
        let items ← tree.items
        let refs ← collect py unicode adapter items []
        .ok (sortByPath refs))
      (IsDict payload ∧ forall tree, member payload "tree" (.list []) = .ok tree ->
        IsIterable tree ∧ forall items, tree.items = .ok items ->
          ItemsFit py unicode adapter items) := by
    refine (checks_member payload "tree" (.list [])).bind_value fun tree _ =>
      (checks_items tree).bind_value fun items _ => ?_
    have hbounds := adapter.max_files_bounds
    refine ((checks_collect items [] (by simp; omega)).bind fun refs _ => checks_ok _).congr
      ((and_iff_left trivial).trans ?_)
    rw [ItemsFit]
    simp
  rw [readTree_eq, answersFor_bind_iff, (checks_memberTrue payload "truncated").answersFor_iff,
    IsTreeShape]
  refine and_congr_right fun hdict => ?_
  rcases (checks_memberTrue payload "truncated").returns hdict with ⟨truncated, htruncated⟩
  simp only [htruncated, Except.ok.injEq, forall_eq']
  cases truncated with
  | true => exact iff_of_true ((answersFor_error_iff _).mpr trivial) nofun
  | false =>
      rw [if_neg Bool.false_ne_true, hread.answersFor_iff, and_iff_right hdict,
        forall_prop_of_true rfl, ← forall_member_iff hdict (show IsIterable (.list []) from trivial)]
      exact ⟨fun h => ⟨fun tree htree => (h tree htree).1, fun tree items htree =>
        (h tree htree).2 items⟩, fun h tree htree => ⟨h.1 tree htree, fun items =>
          h.2 tree items htree⟩⟩

/-!
## Documents
-/

theorem answersFor_decodeContent (encoded : String) : AnswersFor (decodeContent encoded) := by
  unfold decodeContent
  split
  · exact (answersFor_error_iff _).mpr trivial
  · split
    · exact (answersFor_error_iff _).mpr trivial
    · exact answersFor_ok _

theorem readDocument_eq (path : String) (payload : Value) :
    readDocument py path payload = (do
      let kind ← payload.get "type"
      if kind ≠ some (.str "file") then
        .error (validationError "requested documentation path is not a file")
      else
        match ← payload.get "content" with
        | some (.str encoded) => do
            let content ← decodeContent encoded
            if maxDocumentBytes < content.utf8ByteSize then
              .error (validationError "document exceeds the maximum supported size")
            else do
              let sourceUrl ← memberText py payload "html_url"
              let sha ← memberText py payload "sha"
              .ok
                { path := path
                  content := content
                  sourceUrl := sourceUrl
                  sha := sha
                  evidenceStatus := .confirmed }
        | _ => .error (upstreamError "YASIN-DOCS file response did not contain content")) := by
  cases payload <;> rfl

theorem answersFor_shown_iff {encoded : String} {payload : Value} {path : String}
    (hdict : IsDict payload) :
    AnswersFor (do
        let content ← decodeContent encoded
        if maxDocumentBytes < content.utf8ByteSize then
          .error (validationError "document exceeds the maximum supported size")
        else do
          let sourceUrl ← memberText py payload "html_url"
          let sha ← memberText py payload "sha"
          (.ok
            { path := path
              content := content
              sourceUrl := sourceUrl
              sha := sha
              evidenceStatus := .confirmed } : Except PyException Document)) <->
      forall content, decodeContent encoded = .ok content ->
        content.utf8ByteSize ≤ maxDocumentBytes -> HasTexts payload ["html_url", "sha"] := by
  rw [answersFor_bind_iff, and_iff_right (answersFor_decodeContent encoded)]
  refine forall₂_congr fun content _ => ?_
  by_cases hlarge : maxDocumentBytes < content.utf8ByteSize
  · rw [if_pos hlarge]
    exact iff_of_true ((answersFor_error_iff _).mpr trivial) fun hsmall =>
      absurd hlarge (Nat.not_lt.mpr hsmall)
  · rw [if_neg hlarge, forall_prop_of_true (Nat.not_lt.mp hlarge),
      ((checks_memberText payload "html_url" "").bind fun _ _ =>
        (checks_memberText payload "sha" "").bind fun _ _ => checks_ok _).answersFor_iff]
    simp only [HasTexts, hdict, List.forall_mem_cons, List.not_mem_nil, true_and, and_true,
      false_imp_iff, implies_true]

theorem answersFor_readDocument_iff (path : String) (payload : Value) :
    AnswersFor (readDocument py path payload) <-> IsContentsShape payload := by
  rw [readDocument_eq, answersFor_bind_iff, (checks_get payload "type").answersFor_iff,
    IsContentsShape]
  refine and_congr_right fun hdict => ?_
  rcases (checks_get payload "type").returns hdict with ⟨kind, hkind⟩
  rcases (checks_get payload "content").returns hdict with ⟨content, hcontent⟩
  simp only [hkind, hcontent, ok_bind, Except.ok.injEq, forall_eq']
  by_cases hfile : kind = some (.str "file")
  · rw [if_neg (not_not.mpr hfile)]
    simp only [hfile, forall_prop_of_true]
    split
    · rename_i encoded
      rw [answersFor_shown_iff hdict]
      constructor
      · intro h other text hother
        cases hother
        exact h text
      · intro h text
        exact h encoded text rfl
    · rename_i hother
      refine iff_of_true ((answersFor_error_iff _).mpr trivial) ?_
      intro encoded text hencoded
      exact absurd hencoded (hother encoded)
  · rw [if_pos hfile]
    exact iff_of_true ((answersFor_error_iff _).mpr trivial) fun encoded text h =>
      absurd h hfile

/-!
## Operations
-/

/-- What an answer to this request has to be, or the error it may raise. -/
def GoodEvent (py : Builtins) (unicode : UnicodeData) (adapter : YasinDocsAdapter)
    (event : Program.Event UpstreamAnswer) : Prop :=
  GoodAnswer (adapter.AnswerShape py unicode event.1) event.2

theorem decidedBy_listDocuments :
    Program.DecidedBy IsMcpError (GoodEvent py unicode adapter)
      (listDocuments py unicode adapter) := by
  rw [listDocuments_eq]
  refine Program.decidedBy_perform fun answer => ?_
  rw [GoodEvent, AnswerShape, if_pos rfl]
  exact answersFor_answer_iff answersFor_readTree_iff answer

theorem answersFor_validatePath (path : String) : AnswersFor (validatePath path) := by
  unfold validatePath
  split
  · exact (answersFor_error_iff _).mpr trivial
  · exact answersFor_ok _

theorem decidedBy_getDoc (path : String) :
    Program.DecidedBy IsMcpError (GoodEvent py unicode adapter) (getDoc py adapter path) := by
  cases haccepted : validatePath path with
  | error e =>
      rw [getDoc_of_rejected haccepted]
      exact Program.decidedBy_raise (answersFor_validatePath path e haccepted)
  | ok accepted =>
      rw [getDoc_of_accepted haccepted]
      refine Program.decidedBy_perform fun answer => ?_
      rw [GoodEvent, AnswerShape, if_neg (documentRequest_ne_treesRequest path)]
      exact answersFor_answer_iff (answersFor_readDocument_iff path) answer

theorem decidedBy_searchRefs (normalized : String) (refs : List DocumentRef)
    (results : List DocumentSearchResult) :
    Program.DecidedBy IsMcpError (GoodEvent py unicode adapter)
      (searchRefs py unicode adapter normalized refs results) := by
  induction refs generalizing results with
  | nil => exact Program.decidedBy_pure results
  | cons ref rest ih => exact (decidedBy_getDoc ref.path).bind fun document => ih _

theorem decidedBy_searchDocs (query : String) :
    Program.DecidedBy IsMcpError (GoodEvent py unicode adapter)
      (searchDocs py unicode adapter query) := by
  simp only [searchDocs]
  split
  · exact Program.decidedBy_raise trivial
  · exact decidedBy_listDocuments.bind fun refs =>
      (decidedBy_searchRefs _ refs []).bind fun results => Program.decidedBy_pure _

theorem decidedBy_getFirst {missing : PyException} (hmissing : IsMcpError missing)
    (paths : List String) :
    Program.DecidedBy IsMcpError (GoodEvent py unicode adapter)
      (getFirst py adapter missing paths) := by
  induction paths with
  | nil => exact Program.decidedBy_raise hmissing
  | cons path rest ih =>
      refine (decidedBy_getDoc path).rescue ?_ ?_
      · intro e he
        by_cases hfound : IsNotFound e
        · rw [if_pos hfound]
          exact ih
        · rw [if_neg hfound]
          exact Program.decidedBy_raise he
      · intro e he
        refine if_neg fun hfound => ?_
        cases e with
        | mcp error => exact he trivial
        | _ => cases hfound

end

inductive Call where
  | listDocuments
  | getDoc (path : String)
  | searchDocs (query : String)
  | getAdr (name : String)
  | getProjectArchitecture (project : String)
  | listAdrs
  | listArchitectureDocs
  | searchDocsScoped (query : String) (pathPrefix : Option String)

inductive Answered where
  | refs (refs : List DocumentRef)
  | document (document : Document)
  | results (results : List DocumentSearchResult)

namespace Call

def run (py : Builtins) (unicode : UnicodeData) (adapter : YasinDocsAdapter) :
    Call -> Fetch Answered
  | .listDocuments => do
      let refs ← YasinDocsAdapter.listDocuments py unicode adapter
      .pure (.refs refs)
  | .getDoc path => do
      let document ← YasinDocsAdapter.getDoc py adapter path
      .pure (.document document)
  | .searchDocs query => do
      let results ← YasinDocsAdapter.searchDocs py unicode adapter query
      .pure (.results results)
  | .getAdr name => do
      let document ← YasinDocsAdapter.getAdr py adapter name
      .pure (.document document)
  | .getProjectArchitecture project => do
      let document ← YasinDocsAdapter.getProjectArchitecture py unicode adapter project
      .pure (.document document)
  | .listAdrs => do
      let refs ← YasinDocsAdapter.listAdrs py unicode adapter
      .pure (.refs refs)
  | .listArchitectureDocs => do
      let refs ← YasinDocsAdapter.listArchitectureDocs py unicode adapter
      .pure (.refs refs)
  | .searchDocsScoped query pathPrefix => do
      let results ← YasinDocsAdapter.searchDocsScoped py unicode adapter query pathPrefix
      .pure (.results results)

theorem decidedBy_run (py : Builtins) (unicode : UnicodeData) (adapter : YasinDocsAdapter)
    (call : Call) :
    Program.DecidedBy IsMcpError (GoodEvent py unicode adapter) (call.run py unicode adapter) := by
  cases call with
  | listDocuments => exact decidedBy_listDocuments.bind fun refs => Program.decidedBy_pure _
  | getDoc path => exact (decidedBy_getDoc path).bind fun document => Program.decidedBy_pure _
  | searchDocs query =>
      exact (decidedBy_searchDocs query).bind fun results => Program.decidedBy_pure _
  | getAdr name =>
      refine Program.DecidedBy.bind ?_ fun document => Program.decidedBy_pure _
      unfold YasinDocsAdapter.getAdr
      split
      · exact Program.decidedBy_raise trivial
      · exact decidedBy_getFirst (show IsMcpError (notFoundError _) from trivial) _
  | getProjectArchitecture project =>
      refine Program.DecidedBy.bind ?_ fun document => Program.decidedBy_pure _
      unfold YasinDocsAdapter.getProjectArchitecture
      split
      · exact Program.decidedBy_raise trivial
      · refine (decidedBy_searchDocs _).bind fun results => ?_
        split
        · exact Program.decidedBy_pure _
        · exact Program.decidedBy_raise trivial
  | listAdrs =>
      exact (decidedBy_listDocuments.bind fun refs => Program.decidedBy_pure _).bind
        fun refs => Program.decidedBy_pure _
  | listArchitectureDocs =>
      exact (decidedBy_listDocuments.bind fun refs => Program.decidedBy_pure _).bind
        fun refs => Program.decidedBy_pure _
  | searchDocsScoped query pathPrefix =>
      refine Program.DecidedBy.bind ?_ fun results => Program.decidedBy_pure _
      unfold YasinDocsAdapter.searchDocsScoped
      refine (Program.decidedBy_ofExcept ?_).bind fun _ =>
        (decidedBy_searchDocs query).bind fun results => ?_
      · split
        · exact answersFor_ok _
        · exact answersFor_validatePath _
      · split
        · exact Program.decidedBy_pure _
        · exact Program.decidedBy_pure _

end Call

end YasinDocsAdapter

/-!
## Both adapters
-/

/--
Every operation of both adapters returns, or raises an error of the application, exactly
when the answers it gets have the shapes that it goes into.
-/
theorem answersFor_operations_iff (py : Builtins) (unicode : UnicodeData) :
    (forall (adapter : GitHubAdapter) (call : GitHubCall) trace result,
      Program.Emits (call.run py unicode adapter) trace (.ofExcept result) ->
        (AnswersFor result <-> call.Printable ∧
          forall event, event ∈ trace -> GoodAnswer (call.Shape unicode) event.2)) ∧
      forall (adapter : YasinDocsAdapter) (call : YasinDocsAdapter.Call) trace result,
        Program.Emits (call.run py unicode adapter) trace (.ofExcept result) ->
          (AnswersFor result <-> forall event, event ∈ trace ->
            GoodAnswer (adapter.AnswerShape py unicode event.1) event.2) := by
  constructor
  · intro adapter call trace result h
    exact call.answersFor_run_iff h
  · intro adapter call trace result h
    exact YasinDocsAdapter.Call.decidedBy_run py unicode adapter call trace result h

theorem emits_onRepository {operation : RepositoryOperation} {path : String}
    (hpath : operation.path "octocat" "hello-world" = .ok path) (payload : Value) :
    Program.Emits
      ((GitHubCall.onRepository operation "octocat" "hello-world").run plainBuiltins
        plainUnicode GitHubAdapter.withDefaults)
      [⟨GitHubAdapter.withDefaults.request path, .ok payload⟩]
      (.ofExcept (operation.read plainBuiltins plainUnicode "octocat" "hello-world" payload)) := by
  rw [GitHubCall.run, RepositoryOperation.run_eq, GitHubAdapter.fetch_of_ok hpath]
  exact Program.Emits.perform (Program.Emits.refl _)

def issuesWith (number : String) : Value :=
  .list
    [.dict [("number", .str number), ("title", .str "A"), ("state", .str "open")],
      .dict [("number", .none), ("pull_request", .dict [])],
      .none]

def sampleTree : Value :=
  .dict [("tree", .list
    [.dict [("path", .str "README.md"), ("type", .str "blob"), ("size", .str "9")],
      .dict [("path", .str "docs"), ("type", .str "tree")]])]

def sampleRef : DocumentRef where
  path := "README.md"
  sha := ""
  size := 9
  url := ""

/-- White space around a number is taken, a separator is not; and a tree has the shape of one. -/
theorem answersFor_operations_items :
    GoodAnswer ((RepositoryOperation.listIssues 2).Shape plainUnicode)
        (.ok (issuesWith " 7\n")) ∧
      ¬ GoodAnswer ((RepositoryOperation.listIssues 2).Shape plainUnicode)
        (.ok (issuesWith "\u001c7")) ∧
      GoodAnswer (YasinDocsAdapter.withDefaults.AnswerShape plainBuiltins plainUnicode
          YasinDocsAdapter.withDefaults.treesRequest)
        (.ok sampleTree) := by
  rcases answersFor_operations_iff plainBuiltins plainUnicode with ⟨hgithub, hdocs⟩
  have hpath : (RepositoryOperation.listIssues 2).path "octocat" "hello-world" =
      .ok "/repos/octocat/hello-world/issues?state=all&per_page=2" := by
    decide
  have hspaced := hgithub _ _ _ _ (emits_onRepository hpath (issuesWith " 7\n"))
  have hseparated := hgithub _ _ _ _ (emits_onRepository hpath (issuesWith "\u001c7"))
  have hread : YasinDocsAdapter.readTree plainBuiltins plainUnicode YasinDocsAdapter.withDefaults
      sampleTree = .ok [sampleRef] := by
    decide +kernel
  have hemits : Program.Emits (YasinDocsAdapter.Call.listDocuments.run plainBuiltins plainUnicode
      YasinDocsAdapter.withDefaults)
      [⟨YasinDocsAdapter.withDefaults.treesRequest, .ok sampleTree⟩]
      (.ofExcept (.ok (.refs [sampleRef]))) := by
    rw [YasinDocsAdapter.Call.run, YasinDocsAdapter.listDocuments_eq]
    refine Program.Emits.perform ?_
    simp only [ok_bind, hread]
    exact Program.Emits.refl _
  have htree := (hdocs _ _ _ _ hemits).mp (answersFor_ok _) _ List.mem_cons_self
  have hlisted : RepositoryOperation.read plainBuiltins plainUnicode "octocat" "hello-world"
      (.listIssues 2) (issuesWith " 7\n") =
      .ok (.issues
        [⟨7, "A", "open", "", "https://api.github.com/repos/octocat/hello-world/issues/ 7\n"⟩]) :=
    rfl
  have hinvalid : RepositoryOperation.read plainBuiltins plainUnicode "octocat" "hello-world"
      (.listIssues 2) (issuesWith "\u001c7") =
      .error (.valueError "invalid literal for int() with base 10: str") :=
    rfl
  rw [hlisted] at hspaced
  rw [hinvalid] at hseparated
  refine ⟨(hspaced.mp (answersFor_ok _)).2 _ List.mem_cons_self, ?_, htree⟩
  intro hgood
  refine (answersFor_error_iff _).mp (hseparated.mpr ⟨?_, ?_⟩)
  · intro number hnumber
    cases hnumber
  · intro event hevent
    rw [List.mem_singleton.mp hevent]
    exact hgood

/-- A list in place of a repository, and null in place of a tree, end in raw exceptions. -/
theorem malformed_answers_escape :
    Program.Emits
        ((GitHubCall.onRepository .getRepository "octocat" "hello-world").run plainBuiltins
          plainUnicode GitHubAdapter.withDefaults)
        [⟨GitHubAdapter.withDefaults.request "/repos/octocat/hello-world", .ok (.list [])⟩]
        (.raise (.other "AttributeError" true)) ∧
      ¬ IsMcpError (.other "AttributeError" true) ∧
      Program.Emits
        (YasinDocsAdapter.Call.listDocuments.run plainBuiltins plainUnicode
          YasinDocsAdapter.withDefaults)
        [⟨YasinDocsAdapter.withDefaults.treesRequest, .ok (.dict [("tree", .none)])⟩]
        (.raise (.typeError "'NoneType' object is not iterable")) ∧
      ¬ IsMcpError (.typeError "'NoneType' object is not iterable") :=
  ⟨emits_onRepository (show RepositoryOperation.getRepository.path "octocat" "hello-world" = _ by
      decide) (.list []),
    id, Program.Emits.perform (Program.Emits.refl _), id⟩

end YasinMcp
