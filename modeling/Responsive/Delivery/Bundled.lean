/-!
# The bundled responsive stylesheet

The stylesheet of the page, minified, with the boundaries at their built-in widths.
-/

set_option autoImplicit false
set_option relaxedAutoImplicit false

namespace Responsive

/-- The bundled stylesheet, cut into pieces. -/
def bundledPieces : List String := [
  "#start-resizable-editor-section\x7bdisplay:none\x7d",
  "@media only screen and (min-width:1024px)\x7b",
  ":where(.has-text-align-left) .stk-block-divider\x7b--stk-dots-margin-left:0;",
  "--stk-dots-margin-right:auto\x7d:where(.has-text-align-right) .stk-block-divider\x7b",
  "--stk-dots-margin-right:0;--stk-dots-margin-left:auto\x7d",
  ":where(.has-text-align-center) .stk-block-divider\x7b--stk-dots-margin-right:auto;",
  "--stk-dots-margin-left:auto\x7d.stk-block.stk-block-divider.has-text-align-center\x7b",
  "--stk-dots-margin-right:auto;--stk-dots-margin-left:auto\x7d",
  ".stk-block.stk-block-divider.has-text-align-right\x7b--stk-dots-margin-right:0;",
  "--stk-dots-margin-left:auto\x7d.stk-block.stk-block-divider.has-text-align-left\x7b",
  "--stk-dots-margin-left:0;--stk-dots-margin-right:auto\x7d.stk-block-feature>*>.stk-row\x7b",
  "flex-wrap:var(--stk-feature-flex-wrap,nowrap)\x7d.stk-row\x7bflex-wrap:nowrap\x7d",
  ".stk--hide-desktop,.stk--hide-desktop.stk-block\x7bdisplay:none!important\x7d\x7d",
  "@media only screen and (min-width:768px)\x7b",
  ":where(body:not(.wp-admin) .stk-block-column:first-child:nth-last-child(2))\x7b",
  "flex:1 1 calc(50% - var(--stk-column-gap, 0px)*1/2)!important\x7d",
  ":where(body:not(.wp-admin) .stk-block-column:nth-child(2):last-child)\x7b",
  "flex:1 1 calc(50% - var(--stk-column-gap, 0px)*1/2)!important\x7d",
  ":where(body:not(.wp-admin) .stk-block-column:first-child:nth-last-child(3))\x7b",
  "flex:1 1 calc(33.33333% - var(--stk-column-gap, 0px)*2/3)!important\x7d",
  ":where(body:not(.wp-admin) .stk-block-column:nth-child(2):nth-last-child(2))\x7b",
  "flex:1 1 calc(33.33333% - var(--stk-column-gap, 0px)*2/3)!important\x7d",
  ":where(body:not(.wp-admin) .stk-block-column:nth-child(3):last-child)\x7b",
  "flex:1 1 calc(33.33333% - var(--stk-column-gap, 0px)*2/3)!important\x7d",
  ":where(body:not(.wp-admin) .stk-block-column:first-child:nth-last-child(4))\x7b",
  "flex:1 1 calc(25% - var(--stk-column-gap, 0px)*3/4)!important\x7d",
  ":where(body:not(.wp-admin) .stk-block-column:nth-child(2):nth-last-child(3))\x7b",
  "flex:1 1 calc(25% - var(--stk-column-gap, 0px)*3/4)!important\x7d",
  ":where(body:not(.wp-admin) .stk-block-column:nth-child(3):nth-last-child(2))\x7b",
  "flex:1 1 calc(25% - var(--stk-column-gap, 0px)*3/4)!important\x7d",
  ":where(body:not(.wp-admin) .stk-block-column:nth-child(4):last-child)\x7b",
  "flex:1 1 calc(25% - var(--stk-column-gap, 0px)*3/4)!important\x7d",
  ":where(body:not(.wp-admin) .stk-block-column:first-child:nth-last-child(5))\x7b",
  "flex:1 1 calc(20% - var(--stk-column-gap, 0px)*4/5)!important\x7d",
  ":where(body:not(.wp-admin) .stk-block-column:nth-child(2):nth-last-child(4))\x7b",
  "flex:1 1 calc(20% - var(--stk-column-gap, 0px)*4/5)!important\x7d",
  ":where(body:not(.wp-admin) .stk-block-column:nth-child(3):nth-last-child(3))\x7b",
  "flex:1 1 calc(20% - var(--stk-column-gap, 0px)*4/5)!important\x7d",
  ":where(body:not(.wp-admin) .stk-block-column:nth-child(4):nth-last-child(2))\x7b",
  "flex:1 1 calc(20% - var(--stk-column-gap, 0px)*4/5)!important\x7d",
  ":where(body:not(.wp-admin) .stk-block-column:nth-child(5):last-child)\x7b",
  "flex:1 1 calc(20% - var(--stk-column-gap, 0px)*4/5)!important\x7d",
  ":where(body:not(.wp-admin) .stk-block-column:first-child:nth-last-child(6))\x7b",
  "flex:1 1 calc(16.66667% - var(--stk-column-gap, 0px)*5/6)!important\x7d",
  ":where(body:not(.wp-admin) .stk-block-column:nth-child(2):nth-last-child(5))\x7b",
  "flex:1 1 calc(16.66667% - var(--stk-column-gap, 0px)*5/6)!important\x7d",
  ":where(body:not(.wp-admin) .stk-block-column:nth-child(3):nth-last-child(4))\x7b",
  "flex:1 1 calc(16.66667% - var(--stk-column-gap, 0px)*5/6)!important\x7d",
  ":where(body:not(.wp-admin) .stk-block-column:nth-child(4):nth-last-child(3))\x7b",
  "flex:1 1 calc(16.66667% - var(--stk-column-gap, 0px)*5/6)!important\x7d",
  ":where(body:not(.wp-admin) .stk-block-column:nth-child(5):nth-last-child(2))\x7b",
  "flex:1 1 calc(16.66667% - var(--stk-column-gap, 0px)*5/6)!important\x7d",
  ":where(body:not(.wp-admin) .stk-block-column:nth-child(6):last-child)\x7b",
  "flex:1 1 calc(16.66667% - var(--stk-column-gap, 0px)*5/6)!important\x7d",
  ".stk-block-tabs>.stk-inner-blocks.stk-block-tabs--vertical\x7b",
  "grid-template-columns:auto 1fr auto\x7d",
  ".stk-block-tabs>.stk-inner-blocks.stk-block-tabs--vertical>.stk-block-tab-labels:first-c",
  "hild\x7bgrid-column:1/2\x7d",
  ".stk-block-tabs>.stk-inner-blocks.stk-block-tabs--vertical>.stk-block-tab-content:last-c",
  "hild\x7bgrid-column:2/4\x7d",
  ".stk-block-tabs>.stk-inner-blocks.stk-block-tabs--vertical>.stk-block-tab-content:first-",
  "child\x7bgrid-column:1/3\x7d",
  ".stk-block-tabs>.stk-inner-blocks.stk-block-tabs--vertical>.stk-block-tab-labels:last-ch",
  "ild\x7bgrid-column:3/4\x7d.stk-block .stk-block.aligncenter,.stk-block:is(.aligncenter,",
  ".alignwide,.alignfull)>.stk-content-align:not(.alignwide):not(.alignfull)\x7b",
  "margin-left:auto;margin-right:auto;max-width:var(--stk-block-default-width,",
  "var(--stk-block-width-default-detected,900px));width:100%\x7d",
  ".stk-block .stk-block.alignwide,.stk-block:is(.aligncenter,.alignwide,",
  ".alignfull)>.stk-content-align.alignwide\x7bmargin-left:auto;margin-right:auto;",
  "max-width:var(--stk-block-wide-width,var(--stk-block-width-wide-detected,80vw));",
  "width:100%\x7d.stk-row.stk-columns-2>.stk-column\x7bflex:1 1 50%;max-width:50%\x7d",
  ".stk-row.stk-columns-3>.stk-column\x7bflex:1 1 33.3333333333%;max-width:33.3333333333%\x7d",
  ".stk-row.stk-columns-4>.stk-column\x7bflex:1 1 25%;max-width:25%\x7d",
  ".stk-row.stk-columns-5>.stk-column\x7bflex:1 1 20%;max-width:20%\x7d",
  ".stk-row.stk-columns-6>.stk-column\x7bflex:1 1 16.6666666667%;max-width:16.6666666667%\x7d",
  ".stk-row.stk-columns-7>.stk-column\x7bflex:1 1 14.2857142857%;max-width:14.2857142857%\x7d",
  ".stk-row.stk-columns-8>.stk-column\x7bflex:1 1 12.5%;max-width:12.5%\x7d",
  ".stk-row.stk-columns-9>.stk-column\x7bflex:1 1 11.1111111111%;max-width:11.1111111111%\x7d",
  ".stk-row.stk-columns-10>.stk-column\x7bflex:1 1 10%;max-width:10%\x7d\x7d",
  "@media only screen and (min-width:768px) and (max-width:1023px)\x7b",
  ".stk-button-group:is(.stk--collapse-on-tablet)>.block-editor-inner-blocks>.block-editor-",
  "block-list__layout>[data-block]\x7bmargin-inline-end:var(--stk-alignment-margin-right);",
  "margin-inline-start:var(--stk-alignment-margin-left)\x7d",
  ":where(.has-text-align-left-tablet) .stk-block-divider\x7b--stk-dots-margin-left:0;",
  "--stk-dots-margin-right:auto\x7d:where(.has-text-align-right-tablet) .stk-block-divider\x7b",
  "--stk-dots-margin-right:0;--stk-dots-margin-left:auto\x7d",
  ":where(.has-text-align-center-tablet) .stk-block-divider\x7b--stk-dots-margin-right:auto;",
  "--stk-dots-margin-left:auto\x7d.stk--hide-tablet,.stk--hide-tablet.stk-block\x7b",
  "display:none!important\x7d",
  ".stk-button-group:is(.stk--collapse-on-tablet) .stk-block:is(.stk-block-button,",
  ".stk-block-icon-button)\x7bmargin-inline-end:var(--stk-alignment-margin-right);",
  "margin-inline-start:var(--stk-alignment-margin-left)\x7d\x7d",
  "@media only screen and (max-width:1023px)\x7b.stk-block-button\x7b",
  "min-width:-moz-fit-content;min-width:fit-content\x7d",
  ".stk-block.stk-block-divider.has-text-align-center-tablet\x7b--stk-dots-margin-right:auto;",
  "--stk-dots-margin-left:auto\x7d.stk-block.stk-block-divider.has-text-align-right-tablet\x7b",
  "--stk-dots-margin-right:0;--stk-dots-margin-left:auto\x7d",
  ".stk-block.stk-block-divider.has-text-align-left-tablet\x7b--stk-dots-margin-left:0;",
  "--stk-dots-margin-right:auto\x7d.stk-block-timeline.stk-block-timeline__ios-polyfill\x7b",
  "--fixed-bg:linear-gradient(to bottom,var(--line-accent-bg-color,#000) 0,",
  "var(--line-accent-bg-color-2,#000) var(--line-accent-bg-location,50%))\x7d",
  ".has-text-align-center-tablet\x7b--stk-alignment-padding-left:0;",
  "--stk-alignment-justify-content:center;--stk-alignment-text-align:center;",
  "--stk-alignment-margin-left:auto;--stk-alignment-margin-right:auto;",
  "text-align:var(--stk-alignment-text-align,start)\x7d.has-text-align-left-tablet\x7b",
  "--stk-alignment-justify-content:flex-start;--stk-alignment-text-align:start;",
  "--stk-alignment-margin-left:0;--stk-alignment-margin-right:auto;",
  "text-align:var(--stk-alignment-text-align,start)\x7d.has-text-align-right-tablet\x7b",
  "--stk-alignment-justify-content:flex-end;--stk-alignment-text-align:end;",
  "--stk-alignment-margin-left:auto;--stk-alignment-margin-right:0;",
  "text-align:var(--stk-alignment-text-align,start)\x7d.has-text-align-justify-tablet\x7b",
  "--stk-alignment-text-align:justify\x7d.has-text-align-space-between-tablet\x7b",
  "--stk-alignment-justify-content:space-between\x7d.has-text-align-space-around-tablet\x7b",
  "--stk-alignment-justify-content:space-around\x7d.has-text-align-space-evenly-tablet\x7b",
  "--stk-alignment-justify-content:space-evenly\x7d\x7d",
  "@media only screen and (max-width:767px)\x7b",
  ".stk-button-group:is(.stk--collapse-on-mobile)>.block-editor-inner-blocks>.block-editor-",
  "block-list__layout>[data-block],",
  ".stk-button-group:is(.stk--collapse-on-tablet)>.block-editor-inner-blocks>.block-editor-",
  "block-list__layout>[data-block]\x7bmargin-inline-end:var(--stk-alignment-margin-right);",
  "margin-inline-start:var(--stk-alignment-margin-left)\x7d",
  ":where(.has-text-align-left-mobile) .stk-block-divider\x7b--stk-dots-margin-left:0;",
  "--stk-dots-margin-right:auto\x7d:where(.has-text-align-right-mobile) .stk-block-divider\x7b",
  "--stk-dots-margin-right:0;--stk-dots-margin-left:auto\x7d",
  ":where(.has-text-align-center-mobile) .stk-block-divider\x7b--stk-dots-margin-right:auto;",
  "--stk-dots-margin-left:auto\x7d.stk-block.stk-block-divider.has-text-align-center-mobile\x7b",
  "--stk-dots-margin-right:auto;--stk-dots-margin-left:auto\x7d",
  ".stk-block.stk-block-divider.has-text-align-right-mobile\x7b--stk-dots-margin-right:0;",
  "--stk-dots-margin-left:auto\x7d.stk-block.stk-block-divider.has-text-align-left-mobile\x7b",
  "--stk-dots-margin-left:0;--stk-dots-margin-right:auto\x7d",
  ".stk-block-carousel.stk--hide-mobile-arrows>.stk-block-carousel__content-wrapper>*>.stk-",
  "block-carousel__buttons,",
  ".stk-block-carousel.stk--hide-mobile-dots>.stk-block-carousel__content-wrapper>.stk-bloc",
  "k-carousel__dots\x7bdisplay:none\x7d.stk-block.stk-block-feature:is(.is-style-default,",
  ".is-style-horizontal)>.stk-container>.stk-inner-blocks.stk-block-content\x7b",
  "flex-direction:column-reverse\x7d.stk-block-posts\x7b--stk-columns:1\x7d",
  ".stk-block-tab-labels:not(.stk-block-tab-labels--wrap-mobile)\x7boverflow-x:auto!important;",
  "width:100%\x7d",
  ".stk-block-tab-labels:not(.stk-block-tab-labels--wrap-mobile)::-webkit-scrollbar\x7b",
  "height:0!important\x7d",
  ".stk-block-tab-labels:not(.stk-block-tab-labels--wrap-mobile)",
  " .stk-block-tab-labels__wrapper\x7bflex-wrap:nowrap;min-width:-webkit-fill-available;",
  "min-width:fill-available;width:max-content\x7d.stk-block-tabs>.stk-inner-blocks\x7b",
  "grid-template-columns:1fr\x7d",
  ".stk-block-tabs>.stk-inner-blocks>.stk-block-tab-labels:last-child\x7bgrid-row:1/2\x7d",
  ".stk-block.stk-block-timeline\x7b--content-line:0!important;padding-top:0\x7d",
  ".stk-block-timeline>.stk-inner-blocks\x7balign-items:flex-start;",
  "grid-template-columns:var(--line-dot-size,16px) 1fr;grid-template-rows:auto 1fr;",
  "padding-left:16px\x7d.stk-block-timeline>.stk-inner-blocks:after\x7b",
  "inset-inline-start:calc(var(--line-dot-size, 16px)/2 - var(--line-bg-width,",
  " 3px)/2 + 16px)\x7d.stk-block-timeline .stk-block-timeline__middle\x7binset-block-start:8px;",
  "inset-inline-start:16px;position:absolute\x7d",
  ".stk-block-timeline .stk-block-timeline__content\x7bgrid-column:2/3;grid-row:2/3;",
  "text-align:start\x7d.stk-block-timeline .stk-block-timeline__date\x7bgrid-column:2/3;",
  "grid-row:1/2;text-align:start\x7d.stk-block-timeline>.stk-inner-blocks:after\x7b",
  "bottom:calc(100% - var(--line-dot-size, 16px)/2 - .5em);top:calc(var(--line-dot-size,",
  " 16px)/2 + .5em)\x7d.stk-block-timeline+.stk-block-timeline>.stk-inner-blocks:after\x7b",
  "top:-16px\x7d:root\x7b--stk-block-margin-bottom:16px;--stk-column-margin:8px;",
  "--stk-container-padding:24px;--stk-container-padding-large:32px 24px;",
  "--stk-container-padding-small:8px 24px;--stk-block-background-padding:16px\x7d",
  ".stk-block .stk-block:is(.aligncenter,.alignwide),.stk-block:is(.aligncenter,.alignwide,",
  ".alignfull)>.stk-content-align.alignwide,.stk-block:is(.aligncenter,.alignwide,",
  ".alignfull)>.stk-content-align:not(.alignwide):not(.alignfull)\x7bwidth:100%\x7d",
  ".stk-column\x7bflex:1 1 100%;max-width:100%\x7d.stk--hide-mobile,",
  ".stk--hide-mobile.stk-block\x7bdisplay:none!important\x7d",
  ".stk-button-group:is(.stk--collapse-on-mobile) .stk-block:is(.stk-block-button,",
  ".stk-block-icon-button),",
  ".stk-button-group:is(.stk--collapse-on-tablet) .stk-block:is(.stk-block-button,",
  ".stk-block-icon-button)\x7bmargin-inline-end:var(--stk-alignment-margin-right);",
  "margin-inline-start:var(--stk-alignment-margin-left)\x7d.has-text-align-center-mobile\x7b",
  "--stk-alignment-padding-left:0;--stk-alignment-justify-content:center;",
  "--stk-alignment-text-align:center;--stk-alignment-margin-left:auto;",
  "--stk-alignment-margin-right:auto;text-align:var(--stk-alignment-text-align,start)\x7d",
  ".has-text-align-left-mobile\x7b--stk-alignment-justify-content:flex-start;",
  "--stk-alignment-text-align:start;--stk-alignment-margin-left:0;",
  "--stk-alignment-margin-right:auto;text-align:var(--stk-alignment-text-align,start)\x7d",
  ".has-text-align-right-mobile\x7b--stk-alignment-justify-content:flex-end;",
  "--stk-alignment-text-align:end;--stk-alignment-margin-left:auto;",
  "--stk-alignment-margin-right:0;text-align:var(--stk-alignment-text-align,start)\x7d",
  ".has-text-align-justify-mobile\x7b--stk-alignment-text-align:justify\x7d",
  ".has-text-align-space-between-mobile\x7b--stk-alignment-justify-content:space-between\x7d",
  ".has-text-align-space-around-mobile\x7b--stk-alignment-justify-content:space-around\x7d",
  ".has-text-align-space-evenly-mobile\x7b--stk-alignment-justify-content:space-evenly\x7d",
  ".entry-content .stk-block.stk-has-top-separator\x7bpadding-top:23vw\x7d",
  ".entry-content .stk-block.stk-has-bottom-separator\x7bpadding-bottom:23vw\x7d",
  ".entry-content .stk-block .stk-separator__wrapper\x7bheight:23vw\x7d\x7d",
  "#end-resizable-editor-section\x7bdisplay:none\x7d\n"]

/-- The bundled stylesheet. -/
def bundledStylesheet : String :=
  String.join bundledPieces

end Responsive
