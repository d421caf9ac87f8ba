import Hypertext.Escape
import Hypertext.Text.Blank

/-!
# HTML attribute names

`AttributeName` lists the attributes of HTML, current and obsolete ones.

* `spelling` is the name as written; `ofName?` looks it up whatever the case of its letters.
* `valueKind` tells texts, URLs, switches and scripts apart, and `escaping` follows from it: only the
  values of switches are written as they are.
-/

namespace Hypertext

/-- What kind of value an attribute carries. -/
inductive AttributeKind where
  | plain
  | url
  | switch
  | script
deriving DecidableEq, Repr, Inhabited

/-- An attribute of HTML. -/
inductive AttributeName where
  | accept | acceptCharset | accesskey | action | align | alt | async | autocomplete | autofocus
  | autoplay | background | bgcolor | border | cellpadding | cellspacing | charset | checked
  | cite | classes | color | cols | colspan | compact | content | contenteditable | controls
  | coords | data | datetime | default | defer | dir | dirname | disabled | draggable | enctype
  | forControl | form | formaction | headers | height | hidden | high | href | hreflang
  | httpEquiv | id | ismap | kind | label | lang | list | longdesc | loop | low | manifest | max
  | maxlength | media | method | min | multiple | muted | name | noresize | novalidate | nowrap
  | onabort | onblur | onchange | onclick | ondblclick | onerror | onfocus | oninput | onkeydown
  | onkeypress | onkeyup | onload | onmousedown | onmousemove | onmouseout | onmouseover
  | onmouseup | onreset | onresize | onscroll | onselect | onsubmit | onunload | opened | optimum
  | pattern | placeholder | poster | readonly | rel | required | reversed | rows | rowspan
  | scope | selected | shape | size | sizes | span | spellcheck | src | srclang | srcset | start
  | step | style | tabindex | target | title | type | usemap | value | width | wrap
deriving DecidableEq, Repr, Inhabited

namespace AttributeName

/-- The attributes in alphabetical order. -/
def all : List AttributeName :=
  [.accept, .acceptCharset, .accesskey, .action, .align, .alt, .async, .autocomplete,
    .autofocus, .autoplay, .background, .bgcolor, .border, .cellpadding, .cellspacing, .charset,
    .checked, .cite, .classes, .color, .cols, .colspan, .compact, .content, .contenteditable,
    .controls, .coords, .data, .datetime, .default, .defer, .dir, .dirname, .disabled,
    .draggable, .enctype, .forControl, .form, .formaction, .headers, .height, .hidden, .high,
    .href, .hreflang, .httpEquiv, .id, .ismap, .kind, .label, .lang, .list, .longdesc, .loop,
    .low, .manifest, .max, .maxlength, .media, .method, .min, .multiple, .muted, .name,
    .noresize, .novalidate, .nowrap, .onabort, .onblur, .onchange, .onclick, .ondblclick,
    .onerror, .onfocus, .oninput, .onkeydown, .onkeypress, .onkeyup, .onload, .onmousedown,
    .onmousemove, .onmouseout, .onmouseover, .onmouseup, .onreset, .onresize, .onscroll,
    .onselect, .onsubmit, .onunload, .opened, .optimum, .pattern, .placeholder, .poster,
    .readonly, .rel, .required, .reversed, .rows, .rowspan, .scope, .selected, .shape, .size,
    .sizes, .span, .spellcheck, .src, .srclang, .srcset, .start, .step, .style, .tabindex,
    .target, .title, .type, .usemap, .value, .width, .wrap]

/-- The name of the attribute as written in markup. -/
def spelling : AttributeName → String
  | .accept => "accept"
  | .acceptCharset => "accept-charset"
  | .accesskey => "accesskey"
  | .action => "action"
  | .align => "align"
  | .alt => "alt"
  | .async => "async"
  | .autocomplete => "autocomplete"
  | .autofocus => "autofocus"
  | .autoplay => "autoplay"
  | .background => "background"
  | .bgcolor => "bgcolor"
  | .border => "border"
  | .cellpadding => "cellpadding"
  | .cellspacing => "cellspacing"
  | .charset => "charset"
  | .checked => "checked"
  | .cite => "cite"
  | .classes => "class"
  | .color => "color"
  | .cols => "cols"
  | .colspan => "colspan"
  | .compact => "compact"
  | .content => "content"
  | .contenteditable => "contenteditable"
  | .controls => "controls"
  | .coords => "coords"
  | .data => "data"
  | .datetime => "datetime"
  | .default => "default"
  | .defer => "defer"
  | .dir => "dir"
  | .dirname => "dirname"
  | .disabled => "disabled"
  | .draggable => "draggable"
  | .enctype => "enctype"
  | .forControl => "for"
  | .form => "form"
  | .formaction => "formaction"
  | .headers => "headers"
  | .height => "height"
  | .hidden => "hidden"
  | .high => "high"
  | .href => "href"
  | .hreflang => "hreflang"
  | .httpEquiv => "http-equiv"
  | .id => "id"
  | .ismap => "ismap"
  | .kind => "kind"
  | .label => "label"
  | .lang => "lang"
  | .list => "list"
  | .longdesc => "longdesc"
  | .loop => "loop"
  | .low => "low"
  | .manifest => "manifest"
  | .max => "max"
  | .maxlength => "maxlength"
  | .media => "media"
  | .method => "method"
  | .min => "min"
  | .multiple => "multiple"
  | .muted => "muted"
  | .name => "name"
  | .noresize => "noresize"
  | .novalidate => "novalidate"
  | .nowrap => "nowrap"
  | .onabort => "onabort"
  | .onblur => "onblur"
  | .onchange => "onchange"
  | .onclick => "onclick"
  | .ondblclick => "ondblclick"
  | .onerror => "onerror"
  | .onfocus => "onfocus"
  | .oninput => "oninput"
  | .onkeydown => "onkeydown"
  | .onkeypress => "onkeypress"
  | .onkeyup => "onkeyup"
  | .onload => "onload"
  | .onmousedown => "onmousedown"
  | .onmousemove => "onmousemove"
  | .onmouseout => "onmouseout"
  | .onmouseover => "onmouseover"
  | .onmouseup => "onmouseup"
  | .onreset => "onreset"
  | .onresize => "onresize"
  | .onscroll => "onscroll"
  | .onselect => "onselect"
  | .onsubmit => "onsubmit"
  | .onunload => "onunload"
  | .opened => "open"
  | .optimum => "optimum"
  | .pattern => "pattern"
  | .placeholder => "placeholder"
  | .poster => "poster"
  | .readonly => "readonly"
  | .rel => "rel"
  | .required => "required"
  | .reversed => "reversed"
  | .rows => "rows"
  | .rowspan => "rowspan"
  | .scope => "scope"
  | .selected => "selected"
  | .shape => "shape"
  | .size => "size"
  | .sizes => "sizes"
  | .span => "span"
  | .spellcheck => "spellcheck"
  | .src => "src"
  | .srclang => "srclang"
  | .srcset => "srcset"
  | .start => "start"
  | .step => "step"
  | .style => "style"
  | .tabindex => "tabindex"
  | .target => "target"
  | .title => "title"
  | .type => "type"
  | .usemap => "usemap"
  | .value => "value"
  | .width => "width"
  | .wrap => "wrap"

/-- The attribute with this name, in any letter case. -/
def ofName? (name : String) : Option AttributeName :=
  all.find? fun a => Text.sameIgnoringCase a.spelling name

/-- The kind of value that the attribute carries. -/
def valueKind : AttributeName → AttributeKind
  | .action | .background | .cite | .data | .formaction | .href | .longdesc | .manifest
  | .poster | .src | .srcset | .usemap => .url
  | .async | .autofocus | .autoplay | .checked | .compact | .controls | .default | .defer
  | .disabled | .hidden | .ismap | .loop | .multiple | .muted | .noresize | .novalidate
  | .nowrap | .opened | .readonly | .required | .reversed | .selected => .switch
  | .onabort | .onblur | .onchange | .onclick | .ondblclick | .onerror | .onfocus | .oninput
  | .onkeydown | .onkeypress | .onkeyup | .onload | .onmousedown | .onmousemove | .onmouseout
  | .onmouseover | .onmouseup | .onreset | .onresize | .onscroll | .onselect | .onsubmit
  | .onunload => .script
  | _ => .plain

/-- Whether values of the attribute are escaped unless told otherwise: all but those of switches. -/
def escaping (a : AttributeName) : EscapePolicy :=
  match a.valueKind with
  | .switch => .noEscape
  | .plain | .url | .script => .escapeChars

/-- Whether the attribute is an event handler. -/
def isScript (a : AttributeName) : Bool :=
  a.valueKind == .script

/-- Whether the attribute is obsolete. It is written like any other. -/
def isObsolete : AttributeName → Bool
  | .align | .background | .bgcolor | .cellpadding | .cellspacing | .color | .compact
  | .longdesc | .noresize | .nowrap => true
  | _ => false

end AttributeName

end Hypertext
