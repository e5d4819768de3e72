import Transclusion.Proofs.Publication
import Transclusion.Web.Server

namespace Transclusion.Web

/-! What is answered where a page is asked for. -/

variable {wording : Wording} {publisher : Publisher} {files : FileTree} {uri : Uri}
  {root text : Text}

/-- An answer with the page that the source comes to, or with what is wrong with it. -/
inductive Served (wording : Wording) (publisher : Publisher) (files : FileTree) (uri : Uri)
    (text : Text) (answer : Answer) : Prop where
  | page {out : Text}
      (processed : publisher.process files (publisher.request uri.path uri.query) text = .ok out)
      (status : answer.status = 200) (contentType : answer.contentType = some htmlType)
      (body : answer.body = out.toUtf8) (length : answer.length = out.toUtf8.length)
  | failure {failure : Failure}
      (processed : publisher.process files (publisher.request uri.path uri.query) text =
        .error failure)
      (status : answer.status = 500) (contentType : answer.contentType = some textType)
      (body : answer.body = (failure.message wording).toUtf8)
      (length : answer.length = (failure.message wording).toUtf8.length)

theorem isExcluded_text_iff (hpattern : publisher.pattern = none) :
    publisher.isExcluded uri.text = true ↔
      '.' ∈ uri.path ∨ ∃ query, uri.query = some query ∧ '.' ∈ query := by
  simp only [Publisher.isExcluded, Request.isExcluded, hpattern, Option.any_none, Bool.or_false,
    List.contains_iff_mem, Uri.text, List.mem_append]
  cases uri.query with
  | none => simp
  | some query => simp

theorem source_of_page (hpath : '.' ∉ uri.path)
    (hroot : publisher.settings.pagesRoot? = some root)
    (hread : files.readText (pageFile publisher.settings root uri.path) = .ok text) :
    source publisher files uri = .ofBody 200 htmlType text.toUtf8 := by
  have hcontains : uri.path.contains '.' = false := by simpa using hpath
  simp only [source, hroot, hcontains, Bool.false_eq_true, ↓reduceIte, hread]

theorem served_of_publish (hexcluded : publisher.isExcluded uri.text = false)
    (hsize : text.toUtf8.length ≤ publisher.settings.maxBodyBytes) :
    Served wording publisher files uri text
      (publish wording publisher files uri (.ofBody 200 htmlType text.toUtf8)) := by
  have hhtml : isHtml (.ofBody 200 htmlType text.toUtf8) = true := rfl
  have hfits : ¬ text.toUtf8.length > publisher.settings.maxBodyBytes := by omega
  simp only [publish, hexcluded, hhtml, hfits, Answer.body_ofBody, Text.ofUtf8?_toUtf8,
    Bool.not_true, Bool.or_self, Bool.false_eq_true, ↓reduceIte]
  split
  · next out hprocess => exact .page hprocess rfl rfl rfl rfl
  · next failure hprocess => exact .failure hprocess rfl rfl rfl rfl

/-- Without a pattern, a page is published unless there is a dot in the query. With a dot there its
source is sent as it stands. -/
theorem answer_get_of_page (hpattern : publisher.pattern = none) (hpath : '.' ∉ uri.path)
    (hroot : publisher.settings.pagesRoot? = some root)
    (hread : files.readText (pageFile publisher.settings root uri.path) = .ok text)
    (hsize : text.toUtf8.length ≤ publisher.settings.maxBodyBytes) :
    ((∀ query, uri.query = some query → '.' ∉ query) →
      Served wording publisher files uri text (answer wording publisher files .get uri)) ∧
    ((∃ query, uri.query = some query ∧ '.' ∈ query) →
      answer wording publisher files .get uri = .ofBody 200 htmlType text.toUtf8) := by
  have hiff : publisher.isExcluded uri.text = true ↔
      '.' ∈ uri.path ∨ ∃ query, uri.query = some query ∧ '.' ∈ query :=
    isExcluded_text_iff hpattern
  unfold answer
  rw [source_of_page hpath hroot hread]
  constructor
  · intro hquery
    apply served_of_publish _ hsize
    rw [Bool.eq_false_iff, ne_eq, hiff]
    rintro (hdot | ⟨query, hsome, hdot⟩)
    · exact hpath hdot
    · exact hquery query hsome hdot
  · intro hquery
    have hexcluded := hiff.mpr (.inr hquery)
    simp only [publish, hexcluded, Bool.true_or, ↓reduceIte]

def broken : FileTree :=
  (Site.small.tree [("index.html", "{{> a|x}}"), ("a.html", "A")]).put ["d".toList, "x.json".toList]
    (.file (Text.toUtf8 ['\x7b']))

def broken.remark : Wording
  | .json, ['\x7b'] => "EOF while parsing an object at line 1 column 1".toList
  | _, _ => []

theorem process_broken :
    Publisher.small.process broken (Publisher.small.request ['/'] (some "v=1".toList))
      "{{> a|x}}".toList = .error (.dataMalformed "d/x.json".toList ['\x7b']) := by
  rfl

theorem served_without_dot :
    Served broken.remark .small broken ⟨['/'], some "v=1".toList⟩ "{{> a|x}}".toList
        (answer broken.remark .small broken .get ⟨['/'], some "v=1".toList⟩) ∧
      (answer broken.remark .small broken .get ⟨['/'], some "v=1".toList⟩).body =
        Text.toUtf8 ("failed to parse data file d/x.json: ".toList ++
          "EOF while parsing an object at line 1 column 1".toList) := by
  have hserved : Served broken.remark .small broken ⟨['/'], some "v=1".toList⟩
      "{{> a|x}}".toList (answer broken.remark .small broken .get ⟨['/'], some "v=1".toList⟩) :=
    (answer_get_of_page rfl (by decide) rfl rfl (by decide)).1 fun query hquery => by
      cases hquery
      decide
  refine ⟨hserved, ?_⟩
  cases hserved with
  | page processed _ _ _ _ => cases processed.symm.trans process_broken
  | failure processed _ _ body _ =>
      cases processed.symm.trans process_broken
      rw [body]
      rfl

def dangling : FileTree :=
  Site.small.tree [("index.html", "{{> a}}")]

theorem source_sent_with_dot : ¬ ∀ (wording : Wording) (publisher : Publisher) (files : FileTree)
    (uri : Uri) (root text : Text), publisher.pattern = none → '.' ∉ uri.path →
      publisher.settings.pagesRoot? = some root →
        files.readText (pageFile publisher.settings root uri.path) = .ok text →
          text.toUtf8.length ≤ publisher.settings.maxBodyBytes →
            Served wording publisher files uri text
              (answer wording publisher files .get uri) := by
  intro hserved
  have hdangling := hserved (fun _ _ => []) .small dangling ⟨['/'], some "v=1.0".toList⟩ ['r']
    "{{> a}}".toList rfl (by decide) rfl rfl (by decide)
  cases hdangling with
  | page processed _ _ _ _ =>
      have hprocess : Publisher.small.process dangling
          (Publisher.small.request ['/'] (some "v=1.0".toList)) "{{> a}}".toList =
            .error (.templateMissing "a.html".toList) := by rfl
      cases processed.symm.trans hprocess
  | failure _ status _ _ _ => exact absurd status (by decide)

end Transclusion.Web
