/-!
# The client's own words

A `Phrase` is something the client says of its own accord, in Chinese or in English.
Chinese is spoken in the locales that begin with `zh`, in either case.
-/

namespace ChatPortal

/-- The locale where none is chosen. -/
def defaultLocale : String := "zh"

/-- The client speaks Chinese in a locale. -/
def isChinese (locale : String) : Bool :=
  (locale.toList.take 2).map Char.toLower == ['z', 'h']

/-- Something the client says of its own accord. -/
inductive Phrase where
  | expiredTitle
  | expiredBody
  | signInAgain
  | cancel
  | controlPanel
  | selectSchema
  | serviceError
deriving DecidableEq, Repr

namespace Phrase

/-- The phrase in Chinese. -/
def chinese : Phrase → String
  | .expiredTitle => "确认注销"
  | .expiredBody => "您的登陆凭据已过期，请重新登陆，或者点击取消留在本页面"
  | .signInAgain => "重新登陆"
  | .cancel => "取消"
  | .controlPanel => "控制台"
  | .selectSchema => "选择一个方案"
  | .serviceError => "连接服务器失败，请刷新重试"

/-- The phrase in English. -/
def english : Phrase → String
  | .expiredTitle => "Confirm logout"
  | .expiredBody =>
    "Your sign-in has expired. Sign in again, or cancel to stay on this page."
  | .signInAgain => "Sign in again"
  | .cancel => "Cancel"
  | .controlPanel => "Control Panel"
  | .selectSchema => "Select a schema"
  | .serviceError => "Fail to connect the server. Please refresh."

/-- The phrase in a locale. -/
def text (locale : String) (phrase : Phrase) : String :=
  if isChinese locale then phrase.chinese else phrase.english

end Phrase

end ChatPortal
