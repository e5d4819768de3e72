import Transclusion.Text.Basic

namespace Transclusion.Web

/-! The types of files, by what their names end in. -/

def mediaTypes : List (String × List String) := [
  ("application/atom+xml", ["atom"]),
  ("application/epub+zip", ["epub"]),
  ("application/gzip", ["gz"]),
  ("application/java-archive", ["jar"]),
  ("application/json", ["json", "map"]),
  ("application/ld+json", ["jsonld"]),
  ("application/manifest+json", ["webmanifest"]),
  ("application/msword", ["doc", "dot"]),
  ("application/octet-stream", ["bin", "deb", "dll", "dmg", "exe", "img", "iso", "msi"]),
  ("application/pdf", ["pdf"]),
  ("application/pkcs8", ["p8"]),
  ("application/postscript", ["ai", "eps", "ps"]),
  ("application/rss+xml", ["rss"]),
  ("application/rtf", ["rtf"]),
  ("application/vnd.android.package-archive", ["apk"]),
  ("application/vnd.ms-excel", ["xls"]),
  ("application/vnd.ms-fontobject", ["eot"]),
  ("application/vnd.ms-powerpoint", ["ppt"]),
  ("application/vnd.oasis.opendocument.presentation", ["odp"]),
  ("application/vnd.oasis.opendocument.spreadsheet", ["ods"]),
  ("application/vnd.oasis.opendocument.text", ["odt"]),
  ("application/vnd.openxmlformats-officedocument.presentationml.presentation", ["pptx"]),
  ("application/vnd.openxmlformats-officedocument.spreadsheetml.sheet", ["xlsx"]),
  ("application/vnd.openxmlformats-officedocument.wordprocessingml.document", ["docx"]),
  ("application/wasm", ["wasm"]),
  ("application/x-7z-compressed", ["7z"]),
  ("application/x-bzip2", ["bz2"]),
  ("application/x-rar-compressed", ["rar"]),
  ("application/x-sh", ["sh"]),
  ("application/x-shockwave-flash", ["swf"]),
  ("application/x-tar", ["tar"]),
  ("application/x-x509-ca-cert", ["crt", "cer", "der", "pem"]),
  ("application/xhtml+xml", ["xhtml", "xht"]),
  ("application/zip", ["zip"]),
  ("audio/aac", ["aac"]),
  ("audio/flac", ["flac"]),
  ("audio/m4a", ["m4a"]),
  ("audio/midi", ["mid", "midi"]),
  ("audio/mpeg", ["mp3", "mpga"]),
  ("audio/ogg", ["oga", "ogg", "opus"]),
  ("audio/wav", ["wav"]),
  ("font/otf", ["otf"]),
  ("font/ttf", ["ttf"]),
  ("font/woff", ["woff"]),
  ("font/woff2", ["woff2"]),
  ("image/avif", ["avif"]),
  ("image/bmp", ["bmp", "dib"]),
  ("image/gif", ["gif"]),
  ("image/jpeg", ["jfif", "jpe", "jpeg", "jpg"]),
  ("image/png", ["png"]),
  ("image/svg+xml", ["svg"]),
  ("image/tiff", ["tif", "tiff"]),
  ("image/webp", ["webp"]),
  ("image/x-icon", ["ico"]),
  ("text/cache-manifest", ["appcache", "manifest"]),
  ("text/calendar", ["ics"]),
  ("text/css", ["css"]),
  ("text/csv", ["csv"]),
  ("text/html", ["htm", "html", "shtml"]),
  ("text/javascript", ["js", "mjs"]),
  ("text/jsx", ["jsx"]),
  ("text/markdown", ["markdown", "md"]),
  ("text/plain", ["asm", "c", "cc", "conf", "def", "h", "ini", "list", "log", "text", "txt"]),
  ("text/tab-separated-values", ["tsv"]),
  ("text/vcard", ["vcf"]),
  ("text/vtt", ["vtt"]),
  ("text/x-rust", ["rs"]),
  ("text/x-sass", ["sass"]),
  ("text/x-scss", ["scss"]),
  ("text/x-toml", ["toml"]),
  ("text/x-yaml", ["yaml", "yml"]),
  ("text/xml", ["xml", "xsd"]),
  ("video/mp4", ["mp4"]),
  ("video/mpeg", ["mpeg", "mpg"]),
  ("video/ogg", ["ogv"]),
  ("video/quicktime", ["mov", "qt"]),
  ("video/webm", ["webm"]),
  ("video/x-msvideo", ["avi"])]

/-- What a name ends in behind its last dot, which is not the first character. -/
def extensionOf (name : Text) : Text :=
  match (Text.split '.' name).reverse with
  | last :: first :: others => if others.isEmpty && first.isEmpty then [] else last
  | _ => []

def mediaTypeOf (name : Text) : Text :=
  let extension := (extensionOf name).map Char.toLower
  let found := mediaTypes.find? fun entry => entry.2.any (·.toList = extension)
  (found.elim "application/octet-stream" Prod.fst).toList

end Transclusion.Web
