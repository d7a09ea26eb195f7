import BenchReport.Chart.IndexPage
import BenchReport.Proofs.Text.Search

/-!
# What an index page lists

The page is read as a browser reads it: the images are those of the tags that open with a source, and a source goes up to its closing quote. Titles and names are escaped, so they open no tag of their own and end no source early; what is read is the list of files that the page was made from.
-/

namespace BenchReport.IndexPage

open Text (Piece EntityTable unescape restsAfter textUpTo isQuiet isQuietPiece isMark)

/-! ### Reading a page -/

def imageOpening : List Char := "<img src=\"".toList

/-- The source of the image tag that a text starts with. -/
def sourceAt? (chars : List Char) : Option String :=
  if imageOpening <+: chars then
    some (String.ofList
      (unescape ((chars.drop imageOpening.length).takeWhile fun c => c != '"')))
  else none

/-- The sources of all images, in the order of the text. -/
def sourcesIn : List Char → List String
  | [] => []
  | c :: rest => (sourceAt? (c :: rest)).toList ++ sourcesIn rest

def sources (page : String) : List String := sourcesIn page.toList

/-- The number of image tags, whatever they hold. -/
def imageCount (page : String) : Nat := (restsAfter "<img".toList page.toList).length

/-- The headings over the charts, in the order of the text. -/
def headings (page : String) : List String :=
  (restsAfter "<h2>".toList page.toList).map (textUpTo '<')

theorem sourcesIn_eq (chars : List Char) :
    sourcesIn chars = (restsAfter imageOpening chars).map (textUpTo '"') := by
  induction chars with
  | nil => rfl
  | cons c rest ih =>
      rw [sourcesIn, restsAfter, sourceAt?, ih]
      split <;> rfl

/-! ### Pages -/

theorem sorted_perm (files : List String) : (sorted files).Perm files :=
  List.mergeSort_perm files _

section Opening

variable {c : Char} {more : List Char}

/-- Reading a page from each place where an opening stands, when there is one such place for each chart and no other. -/
theorem map_restsAfter_page {α : Type} {read : List Char → α} {found : String → α}
    (hmark : isMark c = true)
    (htop : ∀ title, (top title).all (isQuietPiece (c :: more)) = true)
    (hchart : ∀ file back,
      (restsAfter (c :: more) ((Text.render .page (chart file)).toList ++ back)).map read =
        found file :: (restsAfter (c :: more) back).map read)
    (hend : isQuiet (c :: more) "</body></html>".toList = true)
    (files : List String) (title : String) :
    (restsAfter (c :: more) (page files title).toList).map read = (sorted files).map found := by
  have hclosing : restsAfter (c :: more) "</body></html>".toList = [] := by
    have hnone := Text.restsAfter_append hend []
    rwa [List.append_nil] at hnone
  have hcharts (list : List String) :
      (restsAfter (c :: more)
        ((Text.render .page (list.flatMap chart)).toList ++ "</body></html>".toList)).map read =
        list.map found := by
    induction list with
    | nil => rw [List.flatMap_nil, Text.toList_render, List.flatMap_nil, List.nil_append, hclosing]; rfl
    | cons file rest ih =>
        rw [List.flatMap_cons, Text.toList_render, List.flatMap_append, ← Text.toList_render,
          ← Text.toList_render, List.append_assoc, hchart, ih, List.map_cons]
  have hpage : (page files title).toList =
      (Text.render .page (top title)).toList ++
        ((Text.render .page ((sorted files).flatMap chart)).toList ++ "</body></html>".toList) := by
    rw [page, pieces, List.append_assoc, Text.toList_render, List.flatMap_append, List.flatMap_append,
      ← Text.toList_render, ← Text.toList_render]
    simp [Piece.render]
  rw [hpage, Text.restsAfter_render_append Text.shields_page hmark (htop title), hcharts]

end Opening

/-- Before the first chart there is neither an image nor a heading of one. -/
theorem isQuietPiece_top (title : String) :
    (["<h2>", "<img", "<img src=\""].all fun opening =>
      (top title).all (isQuietPiece opening.toList)) = true := by
  have htop : (["<h2>", "<img", "<img src=\""].all fun opening =>
      (top title).all (isQuietPiece opening.toList)) =
      ["<h2>", "<img", "<img src=\""].all fun opening =>
        (top "").all (isQuietPiece opening.toList) := rfl
  rw [htop]
  decide +kernel

/-- What a chart has before its image. -/
def aboveImage (file : String) : List Piece :=
  [.markup "<div class=\"chart\"><h2>", .content (heading file)]

/-- The texts in the image tag of a chart. -/
def imageTexts (file : String) : List Piece :=
  [.content file, .markup "\" alt=\"", .content (heading file), .markup "\"></div>\n"]

/-- The images of a page are its files, in name order. -/
theorem sources_page (files : List String) (title : String) :
    sources (page files title) = sorted files := by
  have hopening : imageOpening = '<' :: "img src=\"".toList := rfl
  rw [sources, sourcesIn_eq, hopening, ← List.map_id' (sorted files)]
  refine map_restsAfter_page rfl (fun title => ?_) (fun file back => ?_) rfl files title
  · exact List.all_eq_true.1 (isQuietPiece_top title) "<img src=\"" (by simp)
  · have hchart : chart file = aboveImage file ++ .markup "</h2><img src=\"" :: imageTexts file := rfl
    have hsource : "</h2><img src=\"".toList =
        "</h2>".toList ++ ('<' :: "img src=\"".toList ++ []) := by decide
    rw [hchart, Text.restsAfter_render Text.shields_page rfl hsource rfl rfl rfl rfl rfl,
      List.map_cons, List.nil_append]
    exact congrArg (· :: _) (Text.textUpTo_render rfl rfl file _ back)

/-- Over each chart stands the heading of its file. -/
theorem headings_page (files : List String) (title : String) :
    headings (page files title) = (sorted files).map heading := by
  have hopening : "<h2>".toList = '<' :: "h2>".toList := rfl
  rw [headings, hopening]
  refine map_restsAfter_page rfl (fun title => ?_) (fun file back => ?_) rfl files title
  · exact List.all_eq_true.1 (isQuietPiece_top title) "<h2>" (by simp)
  · have hchart : chart file = [] ++ .markup "<div class=\"chart\"><h2>" ::
        .content (heading file) :: .markup "</h2><img src=\"" :: imageTexts file := rfl
    have hsource : "<div class=\"chart\"><h2>".toList =
        "<div class=\"chart\">".toList ++ ('<' :: "h2>".toList ++ []) := by decide
    rw [hchart, Text.restsAfter_render Text.shields_page rfl hsource rfl rfl rfl rfl rfl,
      List.map_cons, List.nil_append]
    exact congrArg (· :: _) (Text.textUpTo_render rfl rfl (heading file) _ back)

/-- A page has an image tag for each file and no other. -/
theorem imageCount_page (files : List String) (title : String) :
    imageCount (page files title) = files.length := by
  have hopening : "<img".toList = '<' :: "img".toList := rfl
  have hmap : (restsAfter "<img".toList (page files title).toList).map (fun _ => ()) =
      (sorted files).map fun _ => () := by
    rw [hopening]
    refine map_restsAfter_page rfl (fun title => ?_) (fun file back => ?_) rfl files title
    · exact List.all_eq_true.1 (isQuietPiece_top title) "<img" (by simp)
    · have hchart : chart file = aboveImage file ++ .markup "</h2><img src=\"" :: imageTexts file := rfl
      have hsource : "</h2><img src=\"".toList =
          "</h2>".toList ++ ('<' :: "img".toList ++ " src=\"".toList) := by decide
      rw [hchart, Text.restsAfter_render Text.shields_page rfl hsource rfl rfl rfl rfl rfl,
        List.map_cons]
  rw [imageCount, ← List.length_map, hmap, List.length_map, (sorted_perm files).length_eq]

end BenchReport.IndexPage
