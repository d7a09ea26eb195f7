import BenchReport.Text.Markup
import BenchReport.Text.Segments
import BenchReport.Text.Title

/-!
# The index page

An HTML page that shows every chart of a directory under a heading, in the order of the file names.
-/

namespace BenchReport.IndexPage

open Text (Piece)

/-- The heading over a file: its name without the extension, as a title. -/
def heading (file : String) : String := Text.title (Text.beforeLast '.' file)

def chart (file : String) : List Piece := [
  .markup "<div class=\"chart\"><h2>", .content (heading file), .markup "</h2><img src=\"",
  .content file, .markup "\" alt=\"", .content (heading file), .markup "\"></div>\n"]

def top (title : String) : List Piece := [
  .markup "<!DOCTYPE html>\n<html><head>\n<meta charset=\"utf-8\">\n<title>",
  .content title,
  .markup "</title>\n<style>\n",
  .markup "  body \x7b font-family: system-ui, sans-serif; max-width: 1200px; margin: 0 auto; padding: 20px; background: #fafafa; \x7d\n",
  .markup "  h1 \x7b color: #333; \x7d\n",
  .markup "  .chart \x7b background: white; border: 1px solid #ddd; border-radius: 8px; padding: 16px; margin: 24px 0; \x7d\n",
  .markup "  .chart img \x7b width: 100%; height: auto; \x7d\n",
  .markup "</style>\n</head><body>\n<h1>",
  .content title,
  .markup "</h1>\n"]

def sorted (files : List String) : List String := files.mergeSort fun left right => left ≤ right

def pieces (files : List String) (title : String) : List Piece :=
  top title ++ (sorted files).flatMap chart ++ [.markup "</body></html>"]

def page (files : List String) (title : String) : String :=
  Text.render .page (pieces files title)

end BenchReport.IndexPage
