import Hypertext.Text.Blank

/-!
# HTML elements

`Element` lists the names of HTML, current and obsolete ones.

* `name` is the name as written, in lower case; `ofName?` looks it up whatever the case of its letters.
* `isVoid` holds of the elements that have a start tag only, `isObsolete` of those not to be used.
-/

namespace Hypertext

/-- An element of HTML. -/
inductive Element where
  | a | abbr | acronym | address | applet | area | article | aside | audio | b | base | basefont
  | bdi | bdo | big | blockquote | body | br | button | canvas | caption | center | cite | code
  | col | colgroup | data | datalist | dd | del | details | dfn | dialog | dir | div | dl | dt
  | em | embed | fieldset | figcaption | figure | font | footer | form | frame | frameset | h1
  | h2 | h3 | h4 | h5 | h6 | head | header | hgroup | hr | html | i | iframe | img | input | ins
  | kbd | label | legend | li | link | main | map | mark | menu | metadata | meter | nav
  | noframes | noscript | object | ol | optgroup | option | output | p | param | pre | progress
  | q | rp | rt | ruby | s | samp | script | sectioning | select | small | source | span | strike
  | strong | style | sub | summary | sup | table | tbody | td | template | textarea | tfoot | th
  | thead | time | title | tr | track | tt | u | ul | var | video | wbr
deriving DecidableEq, Repr, Inhabited

namespace Element

/-- The elements in alphabetical order. -/
def all : List Element :=
  [.a, .abbr, .acronym, .address, .applet, .area, .article, .aside, .audio, .b, .base,
    .basefont, .bdi, .bdo, .big, .blockquote, .body, .br, .button, .canvas, .caption, .center,
    .cite, .code, .col, .colgroup, .data, .datalist, .dd, .del, .details, .dfn, .dialog, .dir,
    .div, .dl, .dt, .em, .embed, .fieldset, .figcaption, .figure, .font, .footer, .form, .frame,
    .frameset, .h1, .h2, .h3, .h4, .h5, .h6, .head, .header, .hgroup, .hr, .html, .i, .iframe,
    .img, .input, .ins, .kbd, .label, .legend, .li, .link, .main, .map, .mark, .menu, .metadata,
    .meter, .nav, .noframes, .noscript, .object, .ol, .optgroup, .option, .output, .p, .param,
    .pre, .progress, .q, .rp, .rt, .ruby, .s, .samp, .script, .sectioning, .select, .small,
    .source, .span, .strike, .strong, .style, .sub, .summary, .sup, .table, .tbody, .td,
    .template, .textarea, .tfoot, .th, .thead, .time, .title, .tr, .track, .tt, .u, .ul, .var,
    .video, .wbr]

/-- The name of the element, in lower case. -/
def name : Element → String
  | .a => "a"
  | .abbr => "abbr"
  | .acronym => "acronym"
  | .address => "address"
  | .applet => "applet"
  | .area => "area"
  | .article => "article"
  | .aside => "aside"
  | .audio => "audio"
  | .b => "b"
  | .base => "base"
  | .basefont => "basefont"
  | .bdi => "bdi"
  | .bdo => "bdo"
  | .big => "big"
  | .blockquote => "blockquote"
  | .body => "body"
  | .br => "br"
  | .button => "button"
  | .canvas => "canvas"
  | .caption => "caption"
  | .center => "center"
  | .cite => "cite"
  | .code => "code"
  | .col => "col"
  | .colgroup => "colgroup"
  | .data => "data"
  | .datalist => "datalist"
  | .dd => "dd"
  | .del => "del"
  | .details => "details"
  | .dfn => "dfn"
  | .dialog => "dialog"
  | .dir => "dir"
  | .div => "div"
  | .dl => "dl"
  | .dt => "dt"
  | .em => "em"
  | .embed => "embed"
  | .fieldset => "fieldset"
  | .figcaption => "figcaption"
  | .figure => "figure"
  | .font => "font"
  | .footer => "footer"
  | .form => "form"
  | .frame => "frame"
  | .frameset => "frameset"
  | .h1 => "h1"
  | .h2 => "h2"
  | .h3 => "h3"
  | .h4 => "h4"
  | .h5 => "h5"
  | .h6 => "h6"
  | .head => "head"
  | .header => "header"
  | .hgroup => "hgroup"
  | .hr => "hr"
  | .html => "html"
  | .i => "i"
  | .iframe => "iframe"
  | .img => "img"
  | .input => "input"
  | .ins => "ins"
  | .kbd => "kbd"
  | .label => "label"
  | .legend => "legend"
  | .li => "li"
  | .link => "link"
  | .main => "main"
  | .map => "map"
  | .mark => "mark"
  | .menu => "menu"
  | .metadata => "meta"
  | .meter => "meter"
  | .nav => "nav"
  | .noframes => "noframes"
  | .noscript => "noscript"
  | .object => "object"
  | .ol => "ol"
  | .optgroup => "optgroup"
  | .option => "option"
  | .output => "output"
  | .p => "p"
  | .param => "param"
  | .pre => "pre"
  | .progress => "progress"
  | .q => "q"
  | .rp => "rp"
  | .rt => "rt"
  | .ruby => "ruby"
  | .s => "s"
  | .samp => "samp"
  | .script => "script"
  | .sectioning => "section"
  | .select => "select"
  | .small => "small"
  | .source => "source"
  | .span => "span"
  | .strike => "strike"
  | .strong => "strong"
  | .style => "style"
  | .sub => "sub"
  | .summary => "summary"
  | .sup => "sup"
  | .table => "table"
  | .tbody => "tbody"
  | .td => "td"
  | .template => "template"
  | .textarea => "textarea"
  | .tfoot => "tfoot"
  | .th => "th"
  | .thead => "thead"
  | .time => "time"
  | .title => "title"
  | .tr => "tr"
  | .track => "track"
  | .tt => "tt"
  | .u => "u"
  | .ul => "ul"
  | .var => "var"
  | .video => "video"
  | .wbr => "wbr"

/-- The element with this name, in any letter case. -/
def ofName? (name : String) : Option Element :=
  all.find? fun e => Text.sameIgnoringCase e.name name

/-- Whether the element has a start tag only. Two obsolete ones are among them. -/
def isVoid : Element → Bool
  | .area | .base | .basefont | .br | .col | .embed | .frame | .hr | .img | .input | .link
  | .metadata | .param | .source | .track | .wbr => true
  | _ => false

/-- Whether the element is obsolete. -/
def isObsolete : Element → Bool
  | .acronym | .applet | .basefont | .big | .center | .dir | .font | .frame | .frameset
  | .noframes | .strike | .tt => true
  | _ => false

/-- The end tag of the element. -/
def endTag (e : Element) : String :=
  "</" ++ e.name ++ ">"

end Element

end Hypertext
